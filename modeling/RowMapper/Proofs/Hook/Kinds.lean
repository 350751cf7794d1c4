import RowMapper.Kind
import RowMapper.Proofs.Text.Pieces

/-!
The kind of a statement as a grammar. A statement is of one of the four kinds just when it is a sequence of pieces
that are skipped, then a keyword of the kind in any case, then anything; every other text is of the other kind.
-/
namespace RowMapper.Kind

/-! ### The grammar -/

/-- A piece that is skipped before the keyword. A comment goes up to the first end that follows its beginning. -/
inductive Skippable : List Char → Prop where
  | blank {c : Char} (white : Text.isBlank c = true) : Skippable [c]
  | opening : Skippable ['(']
  | line {cs : List Char} (ends : Text.EndsFirst ['\n'] cs) : Skippable ('-' :: '-' :: cs)
  | block {cs : List Char} (ends : Text.EndsFirst ['*', '/'] cs) : Skippable ('/' :: '*' :: cs)

inductive Skipped : List Char → Prop where
  | nil : Skipped []
  | cons {piece rest : List Char} (first : Skippable piece) (others : Skipped rest) : Skipped (piece ++ rest)

def keywords : Kind → List String
  | .select => ["SELECT", "WITH"]
  | .insert => ["INSERT"]
  | .update => ["UPDATE"]
  | .delete => ["DELETE"]
  | .other => []

def Opens (kind : Kind) (cs : List Char) : Prop :=
  ∃ skipped word rest, cs = skipped ++ (word ++ rest) ∧ Skipped skipped ∧
    ∃ keyword ∈ kind.keywords, word.map Char.toUpper = keyword.toList

variable {kind kind' : Kind} {cs skipped rest : List Char} {keyword keyword' : String}

/-! ### Keywords -/

theorem startsWith_iff :
    startsWith keyword cs = true ↔ ∃ word rest, cs = word ++ rest ∧ word.map Char.toUpper = keyword.toList := by
  rw [startsWith, beq_iff_eq]
  constructor
  · intro same
    exact ⟨cs.take keyword.length, cs.drop keyword.length, (List.take_append_drop _ cs).symm, same⟩
  · rintro ⟨word, rest, rfl, same⟩
    have size : word.length = keyword.length := by
      rw [← String.length_toList, ← same, List.length_map]
    rw [← size, List.take_left, same]

theorem kind_eq_of_nested (known : keyword ∈ kind.keywords) (known' : keyword' ∈ kind'.keywords)
    (nested : keyword.toList <+: keyword'.toList) : kind = kind' := by
  have apart : ∀ w ∈ kind.keywords, ∀ w' ∈ kind'.keywords, w.toList.isPrefixOf w'.toList = true → kind = kind' := by
    cases kind <;> cases kind' <;> decide
  exact apart keyword known keyword' known' (List.isPrefixOf_iff_prefix.mpr nested)

/-- A text starts with the keywords of one kind at most. -/
theorem kind_eq_of_startsWith (known : keyword ∈ kind.keywords) (known' : keyword' ∈ kind'.keywords)
    (h : startsWith keyword cs = true) (h' : startsWith keyword' cs = true) : kind = kind' := by
  have upper {w : String} (h : startsWith w cs = true) : w.toList <+: cs.map Char.toUpper := by
    obtain ⟨word, rest, rfl, same⟩ := startsWith_iff.mp h
    rw [List.map_append, same]
    exact List.prefix_append _ _
  rcases List.prefix_or_prefix_of_prefix (upper h) (upper h') with nested | nested
  · exact kind_eq_of_nested known known' nested
  · exact (kind_eq_of_nested known' known nested).symm

theorem alpha_of_startsWith (known : keyword ∈ kind.keywords) (h : startsWith keyword cs = true) :
    ∃ c later, cs = c :: later ∧ c.isAlpha = true := by
  have upper : ∀ w ∈ kind.keywords, w.toList.head?.any Char.isUpper = true := by
    cases kind <;> decide
  obtain ⟨word, rest, rfl, same⟩ := startsWith_iff.mp h
  have first := upper keyword known
  rw [← same, List.head?_map] at first
  cases word with
  | nil => cases first
  | cons c word => exact ⟨c, word ++ rest, rfl, (Char.isUpper_toUpper_eq_isAlpha c).symm.trans first⟩

/-! ### What is skipped -/

theorem skipPieces_eq (cs : List Char) :
    skipPieces cs = match skipPiece? (Text.trimStart cs) with
      | some rest => skipPieces rest
      | none => Text.trimStart cs := by
  rw [skipPieces]
  split <;> rename_i e <;> rw [e]

theorem skipPieces_nil : skipPieces [] = [] := by
  rw [skipPieces_eq]
  rfl

theorem skipPieces_of_skippable {piece : List Char} (h : Skippable piece) (cs : List Char) :
    skipPieces (piece ++ cs) = skipPieces cs := by
  cases h with
  | blank white =>
    have trimmed : Text.trimStart (_ :: cs) = Text.trimStart cs := List.dropWhile_cons_of_pos white
    rw [List.singleton_append, skipPieces_eq, skipPieces_eq cs, trimmed]
  | opening =>
    rw [List.singleton_append, skipPieces_eq, Text.trimStart_of_solid (by decide)]
    rfl
  | @line body ends =>
    have found : Text.afterPart? ['\n'] (body ++ cs) = some cs := Text.afterPart?_eq_some_iff.mpr ⟨body, ends, rfl⟩
    rw [List.cons_append, List.cons_append, skipPieces_eq, Text.trimStart_of_solid (by decide), skipPiece?, found]
    rfl
  | @block body ends =>
    have found : Text.afterPart? ['*', '/'] (body ++ cs) = some cs :=
      Text.afterPart?_eq_some_iff.mpr ⟨body, ends, rfl⟩
    rw [List.cons_append, List.cons_append, skipPieces_eq, Text.trimStart_of_solid (by decide), skipPiece?, found]
    rfl

theorem skipPieces_append (h : Skipped skipped) (cs : List Char) : skipPieces (skipped ++ cs) = skipPieces cs := by
  induction h with
  | nil => rfl
  | cons first _ ih => rw [List.append_assoc, skipPieces_of_skippable first, ih]

theorem skipPieces_of_alpha {c : Char} (letter : c.isAlpha = true) (cs : List Char) :
    skipPieces (c :: cs) = c :: cs := by
  have solid : skipPiece? (c :: cs) = none := by
    rw [skipPiece?.eq_def]
    split
    · cases ‹c :: cs = _›
      exact absurd letter (by decide)
    · cases ‹c :: cs = _›
      exact absurd letter (by decide)
    · cases ‹c :: cs = _›
      exact absurd letter (by decide)
    · rfl
  have black : Text.isBlank c = false :=
    Bool.eq_false_iff.mpr fun white => Bool.false_ne_true ((Text.isAlpha_of_blank white).symm.trans letter)
  rw [skipPieces_eq, Text.trimStart_of_solid black, solid]

theorem Skipped.of_trimStart {cs : List Char} {rest : List Char}
    (h : ∃ skipped, Skipped skipped ∧ Text.trimStart cs = skipped ++ rest) :
    ∃ skipped, Skipped skipped ∧ cs = skipped ++ rest := by
  induction cs with
  | nil => exact h
  | cons c cs ih =>
    by_cases white : Text.isBlank c = true
    · rw [Text.trimStart, List.dropWhile_cons_of_pos white] at h
      obtain ⟨skipped, pieces, rfl⟩ := ih h
      exact ⟨[c] ++ skipped, .cons (.blank white) pieces, rfl⟩
    · rwa [Text.trimStart_of_solid (Bool.eq_false_iff.mpr white)] at h

/-- What follows a comment. Where it has no end nothing is left. -/
theorem eq_nil_or_endsFirst {part cs rest : List Char} (h : (Text.afterPart? part cs).getD [] = rest) :
    rest = [] ∨ ∃ body, Text.EndsFirst part body ∧ cs = body ++ rest := by
  cases found : Text.afterPart? part cs with
  | none =>
    rw [found] at h
    exact .inl h.symm
  | some later =>
    rw [found] at h
    exact .inr (Text.endsFirst_of_afterPart? (h ▸ found))

theorem skippable_of_skipPiece? {cs rest : List Char} (h : skipPiece? cs = some rest) :
    rest = [] ∨ ∃ piece, Skippable piece ∧ cs = piece ++ rest := by
  rw [skipPiece?.eq_def] at h
  split at h
  · rcases eq_nil_or_endsFirst (Option.some.inj h) with rfl | ⟨body, ends, rfl⟩
    · exact .inl rfl
    · exact .inr ⟨_, .line ends, rfl⟩
  · rcases eq_nil_or_endsFirst (Option.some.inj h) with rfl | ⟨body, ends, rfl⟩
    · exact .inl rfl
    · exact .inr ⟨_, .block ends, rfl⟩
  · cases h
    exact .inr ⟨['('], .opening, rfl⟩
  · cases h

/-- What is skipped is a sequence of pieces, unless a comment without an end leaves nothing. -/
theorem skipPieces_eq_nil_or (cs : List Char) :
    skipPieces cs = [] ∨ ∃ skipped, Skipped skipped ∧ cs = skipped ++ skipPieces cs := by
  fun_induction skipPieces cs with
  | case1 cs rest found ih =>
    -- An endless comment leaves the empty text, in which nothing is skipped any more.
    rcases skippable_of_skipPiece? found with rfl | ⟨piece, first, trimmed⟩
    · exact .inl skipPieces_nil
    · refine ih.imp_right fun ⟨skipped, pieces, same⟩ => Skipped.of_trimStart ?_
      exact ⟨piece ++ skipped, .cons first pieces, by rw [trimmed, List.append_assoc, ← same]⟩
  | case2 cs =>
    exact .inr (Skipped.of_trimStart ⟨[], .nil, rfl⟩)

/-! ### The kind of a text -/

/-- A text has a keyword of a kind behind what is skipped just when what is left starts with it. -/
theorem opens_iff : kind.Opens cs ↔ ∃ keyword ∈ kind.keywords, startsWith keyword (skipPieces cs) = true := by
  constructor
  · rintro ⟨skipped, word, rest, rfl, pieces, keyword, known, same⟩
    refine ⟨keyword, known, ?_⟩
    -- The keyword begins with a letter, and a letter ends the skipping.
    have starts : startsWith keyword (word ++ rest) = true := startsWith_iff.mpr ⟨word, rest, rfl, same⟩
    obtain ⟨c, later, front, alpha⟩ := alpha_of_startsWith known starts
    rwa [skipPieces_append pieces, front, skipPieces_of_alpha alpha, ← front]
  · rintro ⟨keyword, known, starts⟩
    obtain ⟨word, rest, left, same⟩ := startsWith_iff.mp starts
    rcases skipPieces_eq_nil_or cs with empty | ⟨skipped, pieces, whole⟩
    · obtain ⟨c, later, front, -⟩ := alpha_of_startsWith known starts
      rw [empty] at front
      cases front
    · exact ⟨skipped, word, rest, left ▸ whole, pieces, keyword, known, same⟩

theorem startsWith_of_ofChars (cs : List Char) :
    ofChars cs = .other ∨ ∃ keyword ∈ (ofChars cs).keywords, startsWith keyword (skipPieces cs) = true := by
  simp only [ofChars]
  split
  · rename_i starts
    rcases Bool.or_eq_true_iff.mp starts with starts | starts
    · exact .inr ⟨"SELECT", by decide, starts⟩
    · exact .inr ⟨"WITH", by decide, starts⟩
  · split
    · exact .inr ⟨"INSERT", by decide, ‹_›⟩
    · split
      · exact .inr ⟨"UPDATE", by decide, ‹_›⟩
      · split
        · exact .inr ⟨"DELETE", by decide, ‹_›⟩
        · exact .inl rfl

theorem ofChars_ne_other (known : keyword ∈ kind.keywords) (h : startsWith keyword (skipPieces cs) = true) :
    ofChars cs ≠ .other := by
  intro other
  simp only [ofChars] at other
  cases kind <;> simp only [keywords, List.mem_cons, List.not_mem_nil, or_false] at known
  all_goals grind

theorem ofChars_eq_of_opens (h : kind.Opens cs) : ofChars cs = kind := by
  obtain ⟨keyword, known, starts⟩ := opens_iff.mp h
  rcases startsWith_of_ofChars cs with other | ⟨keyword', known', starts'⟩
  · exact absurd other (ofChars_ne_other known starts)
  · exact kind_eq_of_startsWith known' known starts' starts

theorem opens_ofChars (known : ofChars cs ≠ .other) : (ofChars cs).Opens cs :=
  opens_iff.mpr ((startsWith_of_ofChars cs).resolve_left known)

theorem not_opens_other : ¬ Opens .other cs := by
  rintro ⟨-, -, -, -, -, keyword, known, -⟩
  cases known

theorem ofChars_append (h : Skipped skipped) (cs : List Char) : ofChars (skipped ++ cs) = ofChars cs := by
  rw [ofChars, skipPieces_append h, ofChars]

theorem ofChars_of_endless (solid : Text.trimStart cs = cs) (endless : skipPiece? cs = some []) :
    ofChars cs = .other := by
  rw [ofChars, skipPieces_eq, solid, endless]
  simp only [skipPieces_nil]
  rfl

theorem ofChars_line (endless : '\n' ∉ cs) : ofChars ('-' :: '-' :: cs) = .other := by
  have none : Text.afterPart? ['\n'] cs = none :=
    Text.afterPart?_eq_none_iff.mpr fun there => endless (there.subset List.mem_cons_self)
  refine ofChars_of_endless (Text.trimStart_of_solid (by decide) _) ?_
  rw [skipPiece?, none]
  rfl

theorem ofChars_block (endless : ¬ ['*', '/'] <:+: cs) : ofChars ('/' :: '*' :: cs) = .other := by
  refine ofChars_of_endless (Text.trimStart_of_solid (by decide) _) ?_
  rw [skipPiece?, Text.afterPart?_eq_none_iff.mpr endless]
  rfl

/-- The kind of a statement's text. It is one of the four kinds with keywords just when a keyword of that kind stands
behind what is skipped, and the other kind when none does; so it is for a comment without an end. A text has keywords of
one kind at most there, and whatever is skipped in front of a text does not matter. -/
theorem ofSql_grammar (sql : String) :
    (∀ kind : Kind, kind ≠ .other → (ofSql sql = kind ↔ kind.Opens sql.toList)) ∧
    (ofSql sql = .other ↔ ∀ kind : Kind, ¬ kind.Opens sql.toList) ∧
    (∀ kind kind' : Kind, kind.Opens sql.toList → kind'.Opens sql.toList → kind = kind') ∧
    (∀ skipped : String, Skipped skipped.toList →
      ofSql (skipped ++ sql) = ofSql sql ∧
      ('\n' ∉ sql.toList → ofSql (skipped ++ ("--" ++ sql)) = .other) ∧
      (¬ ['*', '/'] <:+: sql.toList → ofSql (skipped ++ ("/*" ++ sql)) = .other)) := by
  have four (kind : Kind) (known : kind ≠ .other) : ofSql sql = kind ↔ kind.Opens sql.toList :=
    ⟨fun same => same ▸ opens_ofChars fun other => known (same.symm.trans other), ofChars_eq_of_opens⟩
  have behind {skipped : String} (pieces : Skipped skipped.toList) (text : String) :
      ofSql (skipped ++ text) = ofSql text := by
    rw [ofSql, String.toList_append, ofChars_append pieces, ofSql]
  refine ⟨four, ⟨fun other kind opens => ?_, fun none => ?_⟩, fun kind kind' opens opens' => ?_,
    fun skipped pieces => ⟨behind pieces sql, fun endless => ?_, fun endless => ?_⟩⟩
  · exact not_opens_other ((ofChars_eq_of_opens opens).symm.trans other ▸ opens)
  · exact Decidable.byContradiction fun known => none _ (opens_ofChars known)
  · exact (ofChars_eq_of_opens opens).symm.trans (ofChars_eq_of_opens opens')
  · rw [behind pieces, ofSql, String.toList_append]
    exact ofChars_line endless
  · rw [behind pieces, ofSql, String.toList_append]
    exact ofChars_block endless

theorem ofSql_grammar_commented :
    Skipped "-- note /*\n/* select -- */ (".toList ∧
    ofSql ("-- note /*\n/* select -- */ (" ++ "Update t") = .update := by
  have ends {part cs : List Char} (last : Text.afterPart? part cs = some []) : Text.EndsFirst part cs := by
    obtain ⟨body, ends, rfl⟩ := Text.endsFirst_of_afterPart? last
    rwa [List.append_nil]
  have pieces : Skipped "-- note /*\n/* select -- */ (".toList :=
    .cons (.line (ends (by decide : Text.afterPart? ['\n'] " note /*\n".toList = some [])))
      (.cons (.block (ends (by decide : Text.afterPart? ['*', '/'] " select -- */".toList = some [])))
        (.cons (.blank (c := ' ') (by decide)) (.cons .opening .nil)))
  have update : ofSql "Update t" = .update :=
    ((ofSql_grammar "Update t").1 .update (by decide)).mpr
      ⟨[], "Update".toList, " t".toList, by decide, .nil, "UPDATE", by decide, by decide⟩
  exact ⟨pieces, (((ofSql_grammar "Update t").2.2.2 _ pieces).1).trans update⟩

end RowMapper.Kind
