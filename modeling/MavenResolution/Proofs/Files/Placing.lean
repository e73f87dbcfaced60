import Mathlib.Data.List.Induction
import MavenResolution.Proofs.Files.Below
import MavenResolution.Proofs.Outcome
import MavenResolution.Proofs.Text.Pieces

/-! What lies where, while directories are made on the way to a place and a file is begun beside it. -/
namespace MavenResolution

namespace Path

variable {path : Path} {front : List String} {name longer : String}

/-- The path ends in a name that a file may have. -/
structure NamesFile (path : Path) : Prop where
  ends : path.segments = path.parent.segments ++ [path.name]
  down : path.name ≠ ".."
  unslashed : '/' ∉ path.name.toList

theorem namesFile_of_ends (ends : path.segments = front ++ [name]) (down : name ≠ "..")
    (unslashed : '/' ∉ name.toList) : path.NamesFile := by
  have named : path.name = name := by simp [Path.name, ends]
  refine ⟨?_, named ▸ down, named ▸ unslashed⟩
  rw [named]
  simp [parent, ends]

theorem size_text (path : Path) : path.text.utf8ByteSize =
    max 1 (String.ofList (List.replicate path.slashes '/') ++ "/".intercalate path.segments).utf8ByteSize := by
  unfold text
  generalize String.ofList (List.replicate path.slashes '/') ++ "/".intercalate path.segments = inner
  dsimp only
  split
  · rename_i empty
    rw [String.isEmpty_iff.mp empty]
    rfl
  · rename_i filled
    have long : inner.utf8ByteSize ≠ 0 := by
      rwa [Ne, String.utf8ByteSize_eq_zero_iff, ← String.isEmpty_iff]
    omega

theorem size_intercalate_le (front : List String) (shorter : name.utf8ByteSize ≤ longer.utf8ByteSize) :
    ("/".intercalate (front ++ [name])).utf8ByteSize ≤ ("/".intercalate (front ++ [longer])).utf8ByteSize := by
  induction front with
  | nil => simpa [String.intercalate_singleton] using shorter
  | cons segment rest ih =>
    rw [List.cons_append, List.cons_append, String.intercalate_cons_of_ne_nil (by simp),
      String.intercalate_cons_of_ne_nil (by simp)]
    simp only [String.utf8ByteSize_append]
    exact Nat.add_le_add_left ih _

/-- A path is not longer than one with a longer name in the same directory. -/
theorem size_text_le (slashes : Nat) (front : List String) (shorter : name.utf8ByteSize ≤ longer.utf8ByteSize) :
    (text ⟨slashes, front ++ [name]⟩).utf8ByteSize ≤ (text ⟨slashes, front ++ [longer]⟩).utf8ByteSize := by
  have inner := size_intercalate_le front shorter
  rw [size_text, size_text, String.utf8ByteSize_append, String.utf8ByteSize_append]
  dsimp only
  omega

/-- A name without slashes goes behind the directory as it is. -/
theorem join_of_unslashed (directory : Path) (unslashed : '/' ∉ name.toList) (filled : name.toList ≠ [])
    (other : name.toList ≠ ['.']) : directory.join name = ⟨directory.slashes, directory.segments ++ [name]⟩ := by
  have segments : (ofText name).segments = [name] := by
    simp [ofText, segmentsOf, Text.pieces_of_not_mem unslashed, filled, other]
  rw [join, slashes_of_unslashed unslashed, segments]
  rfl

end Path

namespace Files

variable {files after last : Files} {location other directory part : Location} {segments : List String}
  {path : Path} {name : String} {node : Node}

/-! Single places. -/

theorem nodeAt_set_of_ne (node : Option Node) (differs : other ≠ location) :
    (files.set location node).nodeAt other = files.nodeAt other := by
  unfold nodeAt
  rw [lookup_set_of_ne node differs]
  rfl

theorem nodeAt_eq_none_iff :
    files.nodeAt location = none ↔ location.isPrefixOf files.here = false ∧ files.nodes.lookup location = none := by
  unfold nodeAt
  cases location.isPrefixOf files.here <;> simp

theorem nodeAt_set_self (files : Files) (node : Option Node) (outside : location.isPrefixOf files.here = false) :
    (files.set location node).nodeAt location = node := by
  unfold nodeAt
  rw [lookup_set_self]
  change (if location.isPrefixOf files.here then _ else _) = _
  rw [outside]
  rfl

theorem outside_of_nodeAt (vacant : files.nodeAt location ≠ some .directory) :
    location.isPrefixOf files.here = false := by
  unfold nodeAt at vacant
  cases inside : location.isPrefixOf files.here with
  | true => exact absurd (if_pos inside) vacant
  | false => rfl

/-- The same lies everywhere. -/
structure Alike (files after : Files) : Prop where
  here : after.here = files.here
  nodeAt : ∀ location, after.nodeAt location = files.nodeAt location

theorem Alike.walk (alike : files.Alike after) (location : Location) (segments : List String) :
    after.walk location segments = files.walk location segments := by
  fun_induction Files.walk files location segments with
  | case1 => rfl
  | case2 location rest ih => simpa [Files.walk] using ih
  | case3 location segment rest other long => simp [Files.walk, other, long]
  | case4 location segment rest other short next last => simp [Files.walk, other, short, last, next]
  | case5 location segment rest other short next inner found ih =>
    rw [Files.walk, if_neg other, if_neg short, if_neg inner, alike.nodeAt, found]
    exact ih
  | case6 location segment rest other short next inner content found =>
    rw [Files.walk, if_neg other, if_neg short, if_neg inner, alike.nodeAt, found]
  | case7 location segment rest other short next inner missing =>
    rw [Files.walk, if_neg other, if_neg short, if_neg inner, alike.nodeAt, missing]

theorem look_eq_ok_iff : files.look path = .ok node ↔ checkPath path = .ok () ∧
    ∃ location, files.walk (files.start path) path.segments = .ok location ∧
      files.nodeAt location = some node := by
  constructor
  · intro looked
    obtain ⟨location, located, looked⟩ := bind_eq_ok_iff.mp looked
    obtain ⟨_, checked, walked⟩ := bind_eq_ok_iff.mp located
    refine ⟨checked, location, walked, ?_⟩
    split at looked
    · rename_i lies
      exact lies.trans (congrArg some (Except.ok.inj looked))
    · cases looked
  · rintro ⟨checked, location, walked, lies⟩
    refine bind_eq_ok_iff.mpr ⟨location, bind_eq_ok_iff.mpr ⟨(), checked, walked⟩, ?_⟩
    rw [lies]
    rfl

theorem Alike.look (alike : files.Alike after) (path : Path) : after.look path = files.look path := by
  have starts : after.start path = files.start path := by
    unfold start
    rw [alike.here]
  unfold Files.look locate
  rw [starts, alike.walk]
  simp only [alike.nodeAt]

/-! Directories that are made. -/

/-- Directories are made where nothing lies, and not deeper than the segments lead. -/
theorem makeAlong_nodeAt (files : Files) (location : Location) (segments : List String) (other : Location) :
    let made := (files.makeAlong location segments).2
    made.nodeAt other = files.nodeAt other ∨ files.nodeAt other = none ∧ made.nodeAt other = some .directory ∧
      other.length ≤ location.length + segments.length := by
  fun_induction makeAlong files location segments with
  | case1 => exact .inl rfl
  | case2 files location rest ih =>
    rcases ih with same | ⟨missing, made, short⟩
    · exact .inl same
    · refine .inr ⟨missing, made, ?_⟩
      rw [List.length_dropLast] at short
      rw [List.length_cons]
      omega
  | case3 => exact .inl rfl
  | case4 files location segment rest down short next found ih =>
    rcases ih with same | ⟨missing, made, short⟩
    · exact .inl same
    · refine .inr ⟨missing, made, ?_⟩
      rwa [List.length_append, List.length_singleton, Nat.add_right_comm, Nat.add_assoc] at short
  | case5 => exact .inl rfl
  | case6 files location segment rest down short next missing ih =>
    dsimp only at ih ⊢
    have outside := (nodeAt_eq_none_iff.mp missing).1
    by_cases same : other = next
    · subst same
      rw [nodeAt_set_self files _ outside] at ih
      rcases ih with made | ⟨absent, -⟩
      · refine .inr ⟨missing, made, ?_⟩
        simp [next]
      · cases absent
    · rw [nodeAt_set_of_ne _ same] at ih
      rcases ih with same | ⟨missing, made, short⟩
      · exact .inl same
      · refine .inr ⟨missing, made, ?_⟩
        rwa [List.length_append, List.length_singleton, Nat.add_right_comm, Nat.add_assoc] at short

theorem makeAlong_keeps (location : Location) (segments : List String) (found : files.nodeAt other = some node) :
    (files.makeAlong location segments).2.nodeAt other = some node := by
  rcases makeAlong_nodeAt files location segments other with same | ⟨missing, -⟩
  · exact same.trans found
  · cases missing.symm.trans found

/-- Directories that segments have led to are found again as long as they are there, and a name in the last of
them. -/
theorem walk_of_makeAlong (made : (files.makeAlong location segments).1 = .ok directory)
    (kept : ∀ other, (files.makeAlong location segments).2.nodeAt other = some .directory →
      after.nodeAt other = some .directory)
    (down : name ≠ "..") (fits : name.utf8ByteSize ≤ nameLimit) :
    after.walk location (segments ++ [name]) = .ok (directory ++ [name]) := by
  fun_induction makeAlong files location segments with
  | case1 files location =>
    obtain rfl := Except.ok.inj made
    simp [walk, down, Nat.not_lt.mpr fits]
  | case2 files location rest ih => simpa [walk] using ih made kept
  | case3 => cases made
  | case4 files location segment rest other short next found ih =>
    have passed : after.nodeAt next = some .directory := kept next (makeAlong_keeps next rest found)
    rw [List.cons_append, walk, if_neg other, if_neg short, if_neg (by simp), passed]
    exact ih made kept
  | case5 => cases made
  | case6 files location segment rest other short next missing ih =>
    have found := nodeAt_set_self files (some .directory) (nodeAt_eq_none_iff.mp missing).1
    have passed : after.nodeAt next = some .directory := kept next (makeAlong_keeps next rest found)
    rw [List.cons_append, walk, if_neg other, if_neg short, if_neg (by simp), passed]
    exact ih made kept

/-! Files that are there only in directories. -/

/-- Whatever is there lies in a directory. -/
def Rooted (files : Files) : Prop :=
  ∀ location name node, files.nodeAt (location ++ [name]) = some node → files.nodeAt location = some .directory

theorem Rooted.above (rooted : files.Rooted) {inner : List String} (deeper : inner ≠ [])
    (found : files.nodeAt (location ++ inner) = some node) : files.nodeAt location = some .directory := by
  induction inner using List.reverseRecOn generalizing node with
  | nil => exact absurd rfl deeper
  | append_singleton front name ih =>
    rw [← List.append_assoc] at found
    have above := rooted _ name node found
    cases front with
    | nil => simpa using above
    | cons first others => exact ih (List.cons_ne_nil _ _) above

/-- In an empty system there is only the working directory. -/
theorem rooted_empty (here : Location) (refusals : List (Option Http.Fault)) :
    Rooted { here, nodes := [], refusals } := by
  intro location name node found
  have inside : (location ++ [name]).isPrefixOf here = true := by
    by_contra outside
    cases (if_neg outside).symm.trans found
  have above : location <+: here := (List.prefix_append _ _).trans (List.isPrefixOf_iff_prefix.mp inside)
  exact if_pos (List.isPrefixOf_iff_prefix.mpr above)

theorem Rooted.of_alike (rooted : files.Rooted) (alike : files.Alike after) : after.Rooted := by
  intro location name node found
  rw [alike.nodeAt] at found ⊢
  exact rooted location name node found

/-- Something may be put in a directory, where no directory is. -/
theorem Rooted.of_placed (rooted : files.Rooted) (above : files.nodeAt directory = some .directory)
    (vacant : files.nodeAt (directory ++ [name]) ≠ some .directory)
    (kept : ∀ location, location ≠ directory ++ [name] → after.nodeAt location = files.nodeAt location) :
    after.Rooted := by
  intro location other node found
  by_cases same : location ++ [other] = directory ++ [name]
  · obtain ⟨rfl, -⟩ := List.append_inj' same rfl
    rw [kept location fun same => by simpa using congrArg List.length same]
    exact above
  · rw [kept _ same] at found
    have lies := rooted location other node found
    rw [kept location fun same => vacant (same ▸ lies)]
    exact lies

theorem nodeAt_start (files : Files) (path : Path) : files.nodeAt (files.start path) = some .directory := by
  refine if_pos (List.isPrefixOf_iff_prefix.mpr ?_)
  unfold start
  split
  · exact List.prefix_refl _
  · exact List.nil_prefix

theorem Rooted.makeAlong (rooted : files.Rooted) (segments : List String)
    (begins : files.nodeAt location = some .directory) :
    (files.makeAlong location segments).2.Rooted ∧ ∀ directory, (files.makeAlong location segments).1 = .ok directory →
      (files.makeAlong location segments).2.nodeAt directory = some .directory := by
  fun_induction Files.makeAlong files location segments with
  | case1 files location =>
    exact ⟨rooted, fun directory same => Except.ok.inj same ▸ begins⟩
  | case2 files location rest ih =>
    refine ih rooted ?_
    rcases List.eq_nil_or_concat location with rfl | ⟨front, last, rfl⟩
    · exact begins
    · rw [List.concat_eq_append] at begins ⊢
      rw [List.dropLast_concat]
      exact rooted front last _ begins
  | case3 => exact ⟨rooted, by rintro _ ⟨⟩⟩
  | case4 files location segment rest other short next found ih => exact ih rooted found
  | case5 => exact ⟨rooted, by rintro _ ⟨⟩⟩
  | case6 files location segment rest other short next missing ih =>
    have vacant : files.nodeAt (location ++ [segment]) ≠ some .directory := by
      simp [show files.nodeAt (location ++ [segment]) = none from missing]
    refine ih (rooted.of_placed begins vacant fun _ differs => nodeAt_set_of_ne _ differs) ?_
    exact nodeAt_set_self files _ (nodeAt_eq_none_iff.mp missing).1

theorem Rooted.makeDirectories (rooted : files.Rooted) (path : Path) :
    (files.makeDirectories path).2.Rooted ∧ ∀ directory, (files.makeDirectories path).1 = .ok directory →
      (files.makeDirectories path).2.nodeAt directory = some .directory := by
  unfold Files.makeDirectories
  split
  · exact ⟨rooted, by rintro _ ⟨⟩⟩
  · exact rooted.makeAlong path.segments (nodeAt_start files path)

/-- Without steps upwards segments lead where they say. -/
theorem walk_ok (down : ".." ∉ segments) (walked : files.walk location segments = .ok other) :
    other = location ++ segments ∧ ∀ segment ∈ segments, segment.utf8ByteSize ≤ nameLimit := by
  fun_induction Files.walk files location segments with
  | case1 location => exact ⟨by simpa using (Except.ok.inj walked).symm, nofun⟩
  | case2 => exact absurd List.mem_cons_self down
  | case3 => cases walked
  | case4 location segment rest other short next last =>
    obtain rfl := List.isEmpty_iff.mp last
    refine ⟨(Except.ok.inj walked).symm, ?_⟩
    exact List.forall_mem_singleton.mpr (Nat.le_of_not_lt short)
  | case5 location segment rest other short next inner found ih =>
    obtain ⟨reached, fit⟩ := ih (fun up => down (List.mem_cons_of_mem _ up)) walked
    refine ⟨by rw [reached, List.append_assoc, List.singleton_append], ?_⟩
    exact List.forall_mem_cons.mpr ⟨Nat.le_of_not_lt short, fit⟩
  | case6 => cases walked
  | case7 => cases walked

/-- The way to whatever is there goes through directories. -/
theorem Rooted.walk (rooted : files.Rooted) (down : ".." ∉ segments)
    (fit : ∀ segment ∈ segments, segment.utf8ByteSize ≤ nameLimit)
    (found : files.nodeAt (location ++ segments) = some node) :
    files.walk location segments = .ok (location ++ segments) := by
  induction segments generalizing location with
  | nil => rw [Files.walk, List.append_nil]
  | cons segment rest ih =>
    rw [List.mem_cons, not_or] at down
    obtain ⟨short, fit⟩ := List.forall_mem_cons.mp fit
    rw [Files.walk, if_neg (Ne.symm down.1), if_neg (Nat.not_lt.mpr short)]
    dsimp only
    cases rest with
    | nil => rfl
    | cons second others =>
      rw [← List.singleton_append, ← List.append_assoc] at found
      have passed := rooted.above (List.cons_ne_nil second others) found
      rw [List.isEmpty_cons, if_neg Bool.false_ne_true, passed]
      dsimp only
      rw [ih down.2 fit found, List.append_assoc, List.singleton_append]

/-- What a path finds once the directories on the way are made, it has found before, unless it leads back up. -/
theorem look_makeDirectories (rooted : files.Rooted) (ends : path.segments = path.parent.segments ++ [path.name])
    (down : ".." ∉ path.segments) (found : (files.makeDirectories path.parent).2.look path = .ok node) :
    files.look path = .ok node := by
  have here := (makeDirectories_addsBelow [] files path.parent).here
  obtain ⟨checked, location, walked, lies⟩ := look_eq_ok_iff.mp found
  obtain ⟨rfl, fit⟩ := walk_ok down walked
  have starts : (files.makeDirectories path.parent).2.start path = files.start path := by
    unfold start
    rw [here]
  rw [starts] at lies
  have before : files.nodeAt (files.start path ++ path.segments) = some node := by
    unfold makeDirectories at lies
    split at lies
    · exact lies
    · rcases makeAlong_nodeAt files (files.start path) path.parent.segments
        (files.start path ++ path.segments) with same | ⟨-, -, short⟩
      · exact same.symm.trans lies
      -- Nothing that has been made lies as deep as the path leads.
      · rw [List.length_append, ends, List.length_append, List.length_singleton] at short
        omega
  exact look_eq_ok_iff.mpr ⟨checked, _, rooted.walk down fit before, before⟩

/-! Files that are not complete yet. -/

theorem partName_ne (name : String) (number : Nat) : partName name number ≠ name := by
  intro same
  have long := congrArg (fun name : String => name.toList.length) same
  simp [partName] at long
  omega

theorem partName_zero (name : String) : partName name 0 = "." ++ name ++ ".00000000.part" := by
  have digits : "." ++ String.ofList (List.replicate (8 - (toString 0).length) '0') ++ toString 0 ++ ".part" =
      ".00000000.part" := by decide
  rw [← digits]
  simp only [partName, String.append_assoc]

/-- A file is begun where nothing lies, and not at the place of the other one. -/
theorem beginPart_free (begun : files.beginPart directory path = .ok (part, after)) :
    after = files.set part (some (.file [])) ∧ (files.nodeAt part = none ∨ part = []) ∧
      part ≠ directory ++ [path.name] := by
  unfold beginPart at begun
  dsimp only at begun
  split at begun
  · cases begun
  split at begun
  · cases begun
  obtain ⟨rfl, rfl⟩ := Prod.mk.inj (Except.ok.inj begun)
  refine ⟨rfl, ?_⟩
  rcases files.partLocation_cases directory path.name with root | ⟨number, beside, free⟩
  · rw [root]
    exact ⟨.inr rfl, by simp⟩
  · rw [beside]
    exact ⟨.inl free, by simpa using partName_ne path.name number⟩

/-- A path may be asked for if a file could be begun beside it, under a longer name. -/
theorem checkPath_of_beginPart (named : path.NamesFile) (above : checkPath path.parent = .ok ())
    (begun : files.beginPart directory path = .ok (part, after)) :
    checkPath path = .ok () ∧ path.name.utf8ByteSize ≤ nameLimit := by
  let longer := partName path.name 0
  have same : longer = "." ++ path.name ++ ".00000000.part" := partName_zero path.name
  have shorter : path.name.utf8ByteSize ≤ longer.utf8ByteSize := by
    rw [same, String.utf8ByteSize_append, String.utf8ByteSize_append]
    omega
  have unslashed : '/' ∉ longer.toList := by
    rw [same]
    simp [named.unslashed]
  have beside : path.parent.join longer = ⟨path.slashes, path.parent.segments ++ [longer]⟩ := by
    refine path.parent.join_of_unslashed unslashed ?_ ?_ <;> rw [same] <;> simp
  unfold beginPart at begun
  dsimp only at begun
  split at begun
  · cases begun
  rename_i legible
  split at begun
  · cases begun
  rename_i fits
  rw [Bool.or_eq_true, decide_eq_true_iff, decide_eq_true_iff, not_or, Nat.not_lt, Nat.not_lt, beside] at fits
  have short : path.text.utf8ByteSize ≤ pathLimit := by
    have split_ : path = ⟨path.slashes, path.parent.segments ++ [path.name]⟩ := by rw [← named.ends]
    rw [split_]
    exact Nat.le_trans (Path.size_text_le path.slashes path.parent.segments shorter) fits.2
  refine ⟨?_, Nat.le_trans shorter fits.1⟩
  unfold checkPath at above ⊢
  split at above
  · cases above
  rename_i legible'
  rw [if_neg, if_neg (Nat.not_lt.mpr short)]
  rw [named.ends, List.any_append, List.any_cons, List.any_nil, Bool.or_false, Bool.or_eq_true, not_or]
  refine ⟨legible', fun null => legible ?_⟩
  change longer.toList.contains _ = true
  rw [same]
  simp at null ⊢
  exact null

/-- Only one place is written to, and faults that were to come may have come. -/
structure WritesAt (location : Location) (files after : Files) : Prop where
  here : after.here = files.here
  elsewhere : ∀ other, other ≠ location → after.nodes.lookup other = files.nodes.lookup other
  refusals : after.refusals <:+ files.refusals

theorem WritesAt.refl (location : Location) (files : Files) : WritesAt location files files :=
  ⟨rfl, fun _ _ => rfl, List.suffix_refl _⟩

theorem WritesAt.trans (first : WritesAt location files after) (second : WritesAt location after last) :
    WritesAt location files last where
  here := second.here.trans first.here
  elsewhere other differs := (second.elsewhere other differs).trans (first.elsewhere other differs)
  refusals := second.refusals.trans first.refusals

theorem writesAt_set (files : Files) (location : Location) (node : Option Node) :
    WritesAt location files (files.set location node) :=
  ⟨rfl, fun _ differs => lookup_set_of_ne node differs, List.suffix_refl _⟩

theorem writesAt_append (files : Files) (location : Location) (octets : List UInt8) :
    WritesAt location files (files.append location octets) := by
  unfold append
  split
  · exact writesAt_set files location _
  · exact .refl location files

theorem writesAt_permit (files : Files) (location : Location) : WritesAt location files files.permit.2 :=
  ⟨rfl, fun _ _ => rfl, List.tail_suffix _⟩

theorem mem_refusals_of_permit {fault : Http.Fault} (refused : files.permit.1 = some fault) :
    some fault ∈ files.refusals :=
  List.mem_of_mem_head? (Option.join_eq_some_iff.mp refused)

/-- Whatever lies in a place is moved to another one, unless there is a directory. -/
theorem move_of_lookup (held : files.nodes.lookup location = some node) (target : Location) :
    files.move location target =
      if files.nodeAt target = some .directory then .error .isDirectory
      else .ok ((files.set location none).set target (some node)) := by
  unfold move
  rw [held]
  cases files.nodeAt target with
  | none => rfl
  | some other => cases other <;> rfl

theorem WritesAt.nodeAt (writes : WritesAt location files after) (differs : other ≠ location) :
    after.nodeAt other = files.nodeAt other := by
  unfold Files.nodeAt
  rw [writes.here, writes.elsewhere other differs]

/-- Once a file that was begun at a free place is gone, all is as it was. -/
theorem WritesAt.alike (writes : WritesAt part files after) (free : files.nodeAt part = none ∨ part = []) :
    files.Alike (after.set part none) := by
  refine ⟨writes.here, fun location => ?_⟩
  by_cases same : location = part
  · subst same
    rcases free with free | rfl
    · have outside := (nodeAt_eq_none_iff.mp free).1
      rw [free]
      exact nodeAt_set_self after none (by rw [writes.here]; exact outside)
    -- The root is a directory, whatever is put there.
    · simp [Files.nodeAt]
  · exact (nodeAt_set_of_ne none same).trans (writes.nodeAt same)

/-! A file in its place. -/

theorem makeDirectories_refusals (files : Files) (path : Path) :
    (files.makeDirectories path).2.refusals = files.refusals := by
  have along (location : Location) (segments : List String) :
      (files.makeAlong location segments).2.refusals = files.refusals := by
    fun_induction makeAlong files location segments with
    | case1 => rfl
    | case2 files location rest ih => exact ih
    | case3 => rfl
    | case4 files location segment rest other short next found ih => exact ih
    | case5 => rfl
    | case6 files location segment rest other short next missing ih => exact ih
  unfold makeDirectories
  split
  · rfl
  · exact along _ _

/-- The files are the same when directories have been made. -/
theorem makeDirectories_files (files : Files) (path : Path) (location : Location) (content : List UInt8) :
    (files.makeDirectories path).2.nodeAt location = some (.file content) ↔
      files.nodeAt location = some (.file content) := by
  unfold makeDirectories
  split
  · exact .rfl
  · rcases makeAlong_nodeAt files (files.start path) path.segments location with same | ⟨missing, made, -⟩
    · exact iff_of_eq (congrArg (· = _) same)
    · rw [missing, made]
      exact ⟨nofun, nofun⟩

theorem place_of_makeDirectories (named : path.NamesFile)
    (made : (files.makeDirectories path.parent).1 = .ok directory) :
    files.place path = directory ++ [path.name] := by
  rw [makeDirectories_ok made, place, named.ends, List.foldl_append]
  exact if_neg named.down

/-- A path finds what is put in its place, once the directories on the way are made. -/
theorem look_of_placed (named : path.NamesFile) (made : (files.makeDirectories path.parent).1 = .ok directory)
    (begun : (files.makeDirectories path.parent).2.beginPart directory path = .ok (part, after))
    (vacant : (files.makeDirectories path.parent).2.nodeAt (directory ++ [path.name]) ≠ some .directory)
    (here : last.here = files.here) (placed : last.nodeAt (directory ++ [path.name]) = some node)
    (kept : ∀ location, location ≠ directory ++ [path.name] →
      last.nodeAt location = (files.makeDirectories path.parent).2.nodeAt location) :
    last.look path = .ok node := by
  have above : checkPath path.parent = .ok () := by
    unfold makeDirectories at made
    split at made
    · cases made
    · assumption
  obtain ⟨checked, short⟩ := checkPath_of_beginPart named above begun
  refine look_eq_ok_iff.mpr ⟨checked, directory ++ [path.name], ?_, placed⟩
  have starts : last.start path = files.start path.parent := by
    unfold start
    rw [here]
    rfl
  unfold makeDirectories at made vacant kept
  rw [above] at made vacant kept
  rw [starts, named.ends]
  refine walk_of_makeAlong made (fun location lies => ?_) named.down short
  rw [kept location fun same => vacant (same ▸ lies)]
  exact lies

end Files
end MavenResolution
