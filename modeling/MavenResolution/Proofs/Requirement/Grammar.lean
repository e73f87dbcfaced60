import MavenResolution.Proofs.Outcome
import MavenResolution.Proofs.Requirement.Spacing

/-! The grammar of range sets. Reading a text finds the ranges that its tokens denote if they are a range
set as a whole; if they are not, it complains once, and finds those of the longest range set that the tokens
begin with. White space between tokens makes no difference. -/
namespace MavenResolution.Requirement

open Text

/-- Bounds are a version, a comma and perhaps another version, or a comma and a version, or a version
alone, which is both bounds. -/
inductive DenotesBounds : List Symbol → Option String → Option String → Prop
  | between (lower upper : String) :
      DenotesBounds [.version lower, .comma, .version upper] (some lower) (some upper)
  | above (lower : String) : DenotesBounds [.version lower, .comma] (some lower) none
  | below (upper : String) : DenotesBounds [.comma, .version upper] none (some upper)
  | exact (version : String) : DenotesBounds [.version version] (some version) (some version)

/-- A range is bounds between brackets, each of which takes its own bound in or leaves it out. -/
inductive DenotesRange : List Symbol → Range → Prop
  | enclosed {bounds : List Symbol} {lower upper : Option String} (lowerClosed upperClosed : Bool)
      (denoted : DenotesBounds bounds lower upper) :
      DenotesRange (.opening lowerClosed :: (bounds ++ [.closing upperClosed]))
        ⟨lower, lowerClosed, upper, upperClosed⟩

/-- A range set is one or more ranges with commas between them. -/
inductive DenotesRanges : List Symbol → List Range → Prop
  | last {symbols : List Symbol} {range : Range} (denoted : DenotesRange symbols range) :
      DenotesRanges symbols [range]
  | before {symbols rest : List Symbol} {range : Range} {ranges : List Range}
      (denoted : DenotesRange symbols range) (others : DenotesRanges rest ranges) :
      DenotesRanges (symbols ++ .comma :: rest) (range :: ranges)

/-- The ranges are those of the longest range set that the symbols begin with; there are none if they begin
with no range set. -/
def BeginsWith (symbols : List Symbol) (ranges : List Range) : Prop :=
  (∃ front, front <+: symbols ∧ DenotesRanges front ranges ∧
    ∀ other read, other <+: symbols → DenotesRanges other read → other.length ≤ front.length) ∨
  ranges = [] ∧ ∀ front read, front <+: symbols → ¬DenotesRanges front read

section

variable {ending fuel : Nat} {tokens rest : List Token} {range : Range} {ranges : List Range}
  {symbols : List Symbol} {lower upper : Option String}

/-! One range. -/

theorem take_eq_ok_iff {token : Token} :
    take ending tokens = .ok (token, rest) ↔ tokens = token :: rest := by
  cases tokens with
  | nil => simp [take]
  | cons first others => simp [take]

theorem parseVersion_eq_ok_iff {text : String} :
    parseVersion ending tokens = .ok (text, rest) ↔
      ∃ column, tokens = ⟨.version text, column⟩ :: rest := by
  cases tokens with
  | nil => simp [parseVersion, take, bind, Except.bind]
  | cons token others =>
    obtain ⟨symbol, column⟩ := token
    cases symbol <;> simp [parseVersion, take, bind, Except.bind, pure, Except.pure, throw,
      throwThe, MonadExceptOf.throw]

theorem parseBounds_sound (parsed : parseBounds ending tokens = .ok ((lower, upper), rest)) :
    ∃ taken, tokens = taken ++ rest ∧ DenotesBounds (taken.map Token.symbol) lower upper := by
  unfold parseBounds at parsed
  split at parsed
  · rename_i comma others
    obtain ⟨⟨text, behind⟩, version, same⟩ := bind_eq_ok_iff.mp parsed
    obtain ⟨column, rfl⟩ := parseVersion_eq_ok_iff.mp version
    cases same
    exact ⟨[_, _], rfl, .below text⟩
  · obtain ⟨⟨text, behind⟩, version, same⟩ := bind_eq_ok_iff.mp parsed
    obtain ⟨column, rfl⟩ := parseVersion_eq_ok_iff.mp version
    dsimp only at same
    split at same
    · rename_i comma others
      unfold parseUpper at same
      split at same
      · cases same
        exact ⟨[_, _, _], rfl, .between text _⟩
      · cases same
        exact ⟨[_, _], rfl, .above text⟩
    · cases same
      exact ⟨[_], rfl, .exact text⟩

/-- The first of the tokens that stand for some symbols. -/
theorem exists_of_map_eq_cons {symbol : Symbol} (same : tokens.map Token.symbol = symbol :: symbols) :
    ∃ column others, tokens = ⟨symbol, column⟩ :: others ∧ others.map Token.symbol = symbols := by
  obtain ⟨⟨_, column⟩, others, rfl, rfl, rest⟩ := List.map_eq_cons_iff.mp same
  exact ⟨column, others, rfl, rest⟩

/-- Bounds are read to their end if a bracket closes them. -/
theorem parseBounds_complete {taken : List Token}
    (denoted : DenotesBounds (taken.map Token.symbol) lower upper) (closed : Bool) (column : Nat)
    (rest : List Token) :
    parseBounds ending (taken ++ ⟨.closing closed, column⟩ :: rest) =
      .ok ((lower, upper), ⟨.closing closed, column⟩ :: rest) := by
  generalize same : taken.map Token.symbol = symbols at denoted
  cases denoted with
  | between lower upper =>
    obtain ⟨_, _, rfl, comma⟩ := exists_of_map_eq_cons same
    obtain ⟨_, _, rfl, second⟩ := exists_of_map_eq_cons comma
    obtain ⟨_, _, rfl, done⟩ := exists_of_map_eq_cons second
    obtain rfl := List.map_eq_nil_iff.mp done
    rfl
  | above lower =>
    obtain ⟨_, _, rfl, comma⟩ := exists_of_map_eq_cons same
    obtain ⟨_, _, rfl, done⟩ := exists_of_map_eq_cons comma
    obtain rfl := List.map_eq_nil_iff.mp done
    rfl
  | below upper =>
    obtain ⟨_, _, rfl, version⟩ := exists_of_map_eq_cons same
    obtain ⟨_, _, rfl, done⟩ := exists_of_map_eq_cons version
    obtain rfl := List.map_eq_nil_iff.mp done
    rfl
  | exact version =>
    obtain ⟨_, _, rfl, done⟩ := exists_of_map_eq_cons same
    obtain rfl := List.map_eq_nil_iff.mp done
    rfl

theorem parseRange_sound (parsed : parseRange ending tokens = .ok (range, rest)) :
    ∃ taken, tokens = taken ++ rest ∧ DenotesRange (taken.map Token.symbol) range := by
  unfold parseRange at parsed
  obtain ⟨⟨⟨opener, column⟩, behind⟩, opens, opened⟩ := bind_eq_ok_iff.mp parsed
  obtain rfl := take_eq_ok_iff.mp opens
  clear parsed
  dsimp only at opened
  split at opened
  · rename_i lowerClosed
    obtain ⟨⟨⟨lower, upper⟩, behind⟩, bounds, bounded⟩ := bind_eq_ok_iff.mp opened
    obtain ⟨taken, rfl, denoted⟩ := parseBounds_sound bounds
    clear opened
    dsimp only at bounded
    obtain ⟨⟨⟨closer, column'⟩, behind⟩, closes, closed⟩ := bind_eq_ok_iff.mp bounded
    obtain rfl := take_eq_ok_iff.mp closes
    clear bounded
    dsimp only at closed
    split at closed
    · rename_i upperClosed
      cases closed
      refine ⟨⟨.opening lowerClosed, column⟩ :: (taken ++ [⟨.closing upperClosed, column'⟩]), by simp, ?_⟩
      rw [List.map_cons, List.map_append]
      exact .enclosed lowerClosed upperClosed denoted
    · cases closed
  · cases opened

/-- A range is read to its end, whatever comes behind it. -/
theorem parseRange_complete {taken : List Token}
    (denoted : DenotesRange (taken.map Token.symbol) range) (rest : List Token) :
    parseRange ending (taken ++ rest) = .ok (range, rest) := by
  generalize same : taken.map Token.symbol = symbols at denoted
  cases denoted with
  | enclosed lowerClosed upperClosed bounds =>
    obtain ⟨_, _, rfl, inside⟩ := exists_of_map_eq_cons same
    obtain ⟨inner, last, rfl, rfl, closer⟩ := List.map_eq_append_iff.mp inside
    obtain ⟨column, _, rfl, done⟩ := exists_of_map_eq_cons closer
    obtain rfl := List.map_eq_nil_iff.mp done
    have read := @parseBounds_complete ending _ _ inner bounds upperClosed column rest
    simp only [parseRange, take, List.cons_append, List.append_assoc, List.nil_append, bind,
      Except.bind, read]
    rfl

/-! Some ranges. -/

/-- Symbols as tokens; where they stand makes no difference to what they denote. -/
def placed (symbols : List Symbol) : List Token := symbols.map (⟨·, 0⟩)

@[simp] theorem map_symbol_placed (symbols : List Symbol) :
    (placed symbols).map Token.symbol = symbols := by
  simp [placed, Function.comp_def]

/-- No two ranges begin at the same place. -/
theorem DenotesRange.unique {front other behind rest : List Symbol} {read : Range}
    (denoted : DenotesRange front range) (denotedToo : DenotesRange other read)
    (same : front ++ behind = other ++ rest) : front = other ∧ range = read ∧ behind = rest := by
  have first := @parseRange_complete 0 range (placed front) (by simpa using denoted) (placed behind)
  have second := @parseRange_complete 0 read (placed other) (by simpa using denotedToo) (placed rest)
  have joined : placed front ++ placed behind = placed other ++ placed rest := by
    simp only [placed, ← List.map_append, same]
  rw [joined, second] at first
  obtain ⟨rfl, behindSame⟩ := Prod.mk.inj (Except.ok.inj first)
  obtain rfl : rest = behind := by simpa using congrArg (List.map Token.symbol) behindSame
  exact ⟨List.append_cancel_right same, rfl, rfl⟩

/-- A range set behind which other symbols stand, if the symbols begin with a known range. -/
theorem DenotesRanges.cases_of_prefix {front rest other : List Symbol} {read : List Range}
    (denoted : DenotesRange front range) (begins : other <+: front ++ rest)
    (others : DenotesRanges other read) :
    other = front ∨ ∃ behind ranges, other = front ++ .comma :: behind ∧ .comma :: behind <+: rest ∧
      DenotesRanges behind ranges := by
  obtain ⟨after, same⟩ := begins
  cases others with
  | last denotedToo => exact .inl (denoted.unique denotedToo same.symm).1.symm
  | before denotedToo others =>
    rw [List.append_assoc] at same
    obtain ⟨rfl, -, rfl⟩ := denoted.unique denotedToo same.symm
    exact .inr ⟨_, _, rfl, ⟨after, rfl⟩, others⟩

theorem parseRanges_sound (read : parseRanges ending fuel tokens = (ranges, none))
    (enough : tokens.length < fuel) : DenotesRanges (tokens.map Token.symbol) ranges := by
  induction fuel generalizing tokens ranges with
  | zero => omega
  | succ fuel ih =>
    rw [parseRanges] at read
    split at read
    · cases read
    · rename_i range parsed
      obtain ⟨taken, rfl, denoted⟩ := parseRange_sound parsed
      cases read
      rw [List.append_nil]
      exact .last denoted
    · rename_i range column rest parsed
      obtain ⟨taken, rfl, denoted⟩ := parseRange_sound parsed
      cases behind : parseRanges ending fuel rest with
      | mk others fault =>
        rw [behind] at read
        obtain ⟨rfl, rfl⟩ := Prod.mk.inj read
        rw [List.map_append, List.map_cons]
        refine .before denoted (ih behind ?_)
        simp only [List.length_append, List.length_cons] at enough
        omega
    · cases read

theorem parseRanges_complete (denoted : DenotesRanges (tokens.map Token.symbol) ranges)
    (enough : tokens.length < fuel) : parseRanges ending fuel tokens = (ranges, none) := by
  induction fuel generalizing tokens ranges with
  | zero => omega
  | succ fuel ih =>
    generalize same : tokens.map Token.symbol = symbols at denoted
    cases denoted with
    | last denoted =>
      have parsed := @parseRange_complete ending _ tokens (same ▸ denoted) []
      rw [List.append_nil] at parsed
      rw [parseRanges, parsed]
    | before denoted others =>
      obtain ⟨taken, behind, rfl, rfl, comma⟩ := List.map_eq_append_iff.mp same
      obtain ⟨column, rest, rfl, rfl⟩ := exists_of_map_eq_cons comma
      have fewer : rest.length < fuel := by
        simp only [List.length_append, List.length_cons] at enough
        omega
      rw [parseRanges, parseRange_complete denoted]
      dsimp only
      rw [ih others fewer]

/-- A range set begins with a range. -/
theorem DenotesRanges.exists_first {front : List Symbol} (denoted : DenotesRanges front ranges)
    (begins : front <+: tokens.map Token.symbol) :
    ∃ taken rest range, tokens = taken ++ rest ∧ DenotesRange (taken.map Token.symbol) range := by
  obtain ⟨after, same⟩ := begins
  cases denoted with
  | last denoted =>
    obtain ⟨taken, rest, rfl, rfl, -⟩ := List.map_eq_append_iff.mp same.symm
    exact ⟨taken, rest, _, rfl, denoted⟩
  | before denoted others =>
    rw [List.append_assoc] at same
    obtain ⟨taken, rest, rfl, rfl, -⟩ := List.map_eq_append_iff.mp same.symm
    exact ⟨taken, rest, _, rfl, denoted⟩

/-- What stands behind a range and a comma goes on with the range set, if it begins with one at all. -/
theorem BeginsWith.before {front behind : List Symbol} (denoted : DenotesRange front range)
    (begins : BeginsWith behind ranges) : BeginsWith (front ++ .comma :: behind) (range :: ranges) := by
  rcases begins with ⟨more, begins, denotes, longest⟩ | ⟨rfl, unbegun⟩
  · refine .inl ⟨_, ?_, .before denoted denotes, fun other read beginsToo denotedToo => ?_⟩
    · exact (List.prefix_append_right_inj _).mpr ((List.prefix_cons_inj _).mpr begins)
    · rcases denotedToo.cases_of_prefix denoted beginsToo with rfl | ⟨after, others, rfl, here, there⟩
      · simp
      · have within := longest after others ((List.prefix_cons_inj _).mp here) there
        simp only [List.length_append, List.length_cons]
        omega
  · refine .inl ⟨_, List.prefix_append _ _, .last denoted, fun other read beginsToo denotedToo => ?_⟩
    rcases denotedToo.cases_of_prefix denoted beginsToo with rfl | ⟨after, others, rfl, here, there⟩
    · exact Nat.le_refl _
    · exact absurd there (unbegun after others ((List.prefix_cons_inj _).mp here))

/-- A range set ends with a range behind which there is no comma. -/
theorem BeginsWith.last {front behind : List Symbol} (denoted : DenotesRange front range)
    (ended : ∀ rest, behind ≠ .comma :: rest) : BeginsWith (front ++ behind) [range] := by
  refine .inl ⟨_, List.prefix_append _ _, .last denoted, fun other read beginsToo denotedToo => ?_⟩
  rcases denotedToo.cases_of_prefix denoted beginsToo with rfl | ⟨after, others, rfl, here, there⟩
  · exact Nat.le_refl _
  · obtain ⟨rest, same⟩ := here
    exact absurd same.symm (ended _)

/-- Whatever is wrong with some tokens, what stands in front of the fault is read as far as it is a range
set. -/
theorem parseRanges_begins {fault : SyntaxFault}
    (read : parseRanges ending fuel tokens = (ranges, some fault)) (enough : tokens.length < fuel) :
    BeginsWith (tokens.map Token.symbol) ranges := by
  induction fuel generalizing tokens ranges with
  | zero => omega
  | succ fuel ih =>
    rw [parseRanges] at read
    split at read
    · rename_i fault failed
      obtain ⟨rfl, -⟩ := Prod.mk.inj read
      refine .inr ⟨rfl, fun front read begins denoted => ?_⟩
      -- Its first range would have been read.
      obtain ⟨taken, rest, range, rfl, first⟩ := denoted.exists_first begins
      rw [parseRange_complete first] at failed
      cases failed
    · cases read
    · rename_i range column rest parsed
      obtain ⟨taken, rfl, denoted⟩ := parseRange_sound parsed
      have fewer : rest.length < fuel := by
        simp only [List.length_append, List.length_cons] at enough
        omega
      cases behind : parseRanges ending fuel rest with
      | mk others fault =>
        rw [behind] at read
        obtain ⟨rfl, rfl⟩ := Prod.mk.inj read
        rw [List.map_append, List.map_cons]
        exact .before denoted (ih behind fewer)
    · rename_i range token rest noComma parsed
      obtain ⟨taken, rfl, denoted⟩ := parseRange_sound parsed
      obtain ⟨rfl, -⟩ := Prod.mk.inj read
      rw [List.map_append, List.map_cons]
      refine .last denoted fun others same => ?_
      obtain ⟨symbol, column⟩ := token
      obtain ⟨rfl, -⟩ := List.cons.inj same
      exact noComma column rfl

theorem DenotesRanges.unique {read : List Range} (denoted : DenotesRanges symbols ranges)
    (denotedToo : DenotesRanges symbols read) : ranges = read := by
  have enough : (placed symbols).length < symbols.length + 1 := by simp [placed]
  have first := @parseRanges_complete 0 _ (placed symbols) ranges (by simpa using denoted) enough
  have second := @parseRanges_complete 0 _ (placed symbols) read (by simpa using denotedToo) enough
  exact (Prod.mk.inj (first.symm.trans second)).1

theorem BeginsWith.unique {read : List Range} (begins : BeginsWith symbols ranges)
    (beginsToo : BeginsWith symbols read) : ranges = read := by
  rcases begins with ⟨front, here, denoted, longest⟩ | ⟨rfl, unbegun⟩
  · rcases beginsToo with ⟨other, there, denotedToo, longestToo⟩ | ⟨-, unbegun⟩
    · have prefixed := List.prefix_of_prefix_length_le here there (longestToo front ranges here denoted)
      obtain rfl := prefixed.eq_of_length_le (longest other read there denotedToo)
      exact denoted.unique denotedToo
    · exact absurd denoted (unbegun front ranges here)
  · rcases beginsToo with ⟨other, there, denotedToo, -⟩ | ⟨rfl, -⟩
    · exact absurd denotedToo (unbegun other read there)
    · rfl

end

/-! Range sets. -/

variable {text : String} {ranges : List Range}

/-- The symbols of a text, with a closing bracket put behind them if there is none. -/
def rangeSymbols (text : String) : List Symbol := symbolsOf (closed text.toList)

theorem parseRangeSet_of_denotes (denoted : DenotesRanges (rangeSymbols text) ranges) :
    parseRangeSet text = (⟨ranges⟩, none) := by
  unfold parseRangeSet
  dsimp only
  rw [parseRanges_complete denoted (Nat.lt_succ_self _)]
  rfl

theorem parseRangeSet_of_undenoted
    (undenoted : ∀ ranges, ¬DenotesRanges (rangeSymbols text) ranges) :
    ∃ fault, (parseRangeSet text).2 = some fault ∧
      BeginsWith (rangeSymbols text) (parseRangeSet text).1.ranges := by
  unfold parseRangeSet
  dsimp only
  cases read : parseRanges (endingColumn (tokens (closed text.toList)))
    ((tokens (closed text.toList)).length + 1) (tokens (closed text.toList)) with
  | mk ranges fault =>
    cases fault with
    | none => exact absurd (parseRanges_sound read (Nat.lt_succ_self _)) (undenoted ranges)
    | some fault => exact ⟨_, rfl, parseRanges_begins read (Nat.lt_succ_self _)⟩

/-- Nothing but its symbols bears on what a text is read as. -/
theorem parseRangeSet_of_symbols {other : String} (same : rangeSymbols text = rangeSymbols other) :
    (parseRangeSet text).1 = (parseRangeSet other).1 ∧
      (parseRangeSet text).2.isSome = (parseRangeSet other).2.isSome := by
  by_cases denotes : ∃ ranges, DenotesRanges (rangeSymbols text) ranges
  · obtain ⟨ranges, denoted⟩ := denotes
    rw [parseRangeSet_of_denotes denoted, parseRangeSet_of_denotes (same ▸ denoted)]
    exact ⟨rfl, rfl⟩
  · rw [not_exists] at denotes
    obtain ⟨fault, faulty, begins⟩ := parseRangeSet_of_undenoted denotes
    obtain ⟨fault', faultyToo, beginsToo⟩ := parseRangeSet_of_undenoted (same ▸ denotes)
    rw [faulty, faultyToo]
    have read : (parseRangeSet text).1.ranges = (parseRangeSet other).1.ranges :=
      begins.unique (same ▸ beginsToo)
    exact ⟨congrArg RangeSet.mk read, rfl⟩

/-- Reading a range set finds the ranges that its symbols denote and says nothing, if they are a range set.
If they are not, there is one warning, and the ranges are those of the longest range set at their beginning.
Only the symbols matter, and not the white space between them. -/
theorem parseRangeSet_reads (text : String) (owner : Option ModuleId) :
    let symbols := rangeSymbols text
    let ranges := (parseRangeSet text).1.ranges
    let log := (parseRangeSet text).2.toList.map (·.entry owner)
    (∀ denoted, DenotesRanges symbols denoted → ranges = denoted ∧ log = []) ∧
      ((∀ denoted, ¬DenotesRanges symbols denoted) →
        (∃ message, log = [Log.warning .ranges message]) ∧ BeginsWith symbols ranges) ∧
      (∀ other, rangeSymbols other = symbols → (parseRangeSet other).1 = (parseRangeSet text).1 ∧
        (parseRangeSet other).2.isSome = (parseRangeSet text).2.isSome) ∧
      ∀ front blanks back, text.toList = front ++ back → BetweenTokens front back →
        (∀ c ∈ blanks, isBlank c = true) →
        rangeSymbols (String.ofList (front ++ (blanks ++ back))) = symbols := by
  intro symbols ranges log
  refine ⟨fun denoted denotes => ?_, fun undenoted => ?_, fun other => parseRangeSet_of_symbols, ?_⟩
  · have read := parseRangeSet_of_denotes denotes
    exact ⟨congrArg (·.1.ranges) read, congrArg (·.2.toList.map (·.entry owner)) read⟩
  · obtain ⟨fault, faulty, begins⟩ := parseRangeSet_of_undenoted undenoted
    refine ⟨⟨fault.message owner, ?_⟩, begins⟩
    simp only [log, faulty]
    rfl
  · intro front blanks back split apart blank
    simp only [symbols, rangeSymbols, String.toList_ofList, split]
    exact symbolsOf_closed_blanks blank apart

/-- An unclosed range is closed, and an unfinished one is dropped with a warning while the one in front of it
stays. -/
theorem parseRangeSet_reads_unclosed :
    let whole := parseRangeSet "[1.8"
    let broken := parseRangeSet "[1, 2),[3"
    (whole.1.ranges = [⟨some "1.8", true, some "1.8", true⟩] ∧
        whole.2.toList.map (·.entry none) = []) ∧
      (∃ message, broken.2.toList.map (·.entry none) = [Log.warning .ranges message]) ∧
        BeginsWith (rangeSymbols "[1, 2),[3") [⟨some "1", true, some "2", false⟩] := by
  have denoted : DenotesRanges (rangeSymbols "[1.8") [⟨some "1.8", true, some "1.8", true⟩] :=
    .last (.enclosed true true (.exact "1.8"))
  have faulty : (parseRangeSet "[1, 2),[3").2.isSome = true := by decide
  have undenoted (ranges) : ¬DenotesRanges (rangeSymbols "[1, 2),[3") ranges := fun denoted => by
    rw [parseRangeSet_of_denotes denoted] at faulty
    cases faulty
  exact ⟨(parseRangeSet_reads "[1.8" none).1 _ denoted,
    (parseRangeSet_reads "[1, 2),[3" none).2.1 undenoted⟩

end MavenResolution.Requirement
