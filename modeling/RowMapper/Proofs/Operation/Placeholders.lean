import RowMapper.Proofs.Operation.Places
import RowMapper.Server.Script

/-!
The places of the bound values as they are read off the text of a statement: a dollar sign and a number.
No digit follows a place, so the numbers are those of the pieces.
-/
namespace RowMapper

/-- The numbers that stand behind a dollar sign in a text, from left to right. -/
def placeholders : List Char → List Nat
  | [] => []
  | c :: rest =>
    if c = '$' && rest.head?.any Char.isDigit then leadingNumber rest :: placeholders rest
    else placeholders rest

def StartsPlain (cs : List Char) : Prop := ∀ c ∈ cs.head?, c.isDigit = false

theorem placeholders_skip {cs : List Char} (plain : '$' ∉ cs) (rest : List Char) :
    placeholders (cs ++ rest) = placeholders rest := by
  induction cs with
  | nil => rfl
  | cons c cs ih =>
    rw [List.mem_cons, not_or] at plain
    have other : c ≠ '$' := fun h => plain.1 h.symm
    simp only [List.cons_append, placeholders, other, decide_false, Bool.false_and]
    exact ih plain.2

theorem takeWhile_digits {ds : List Char} (digits : ∀ d ∈ ds, d.isDigit = true) {cs : List Char}
    (plain : StartsPlain cs) : (ds ++ cs).takeWhile Char.isDigit = ds := by
  rw [List.takeWhile_append_of_pos digits]
  cases cs with
  | nil => simp
  | cons c cs =>
    have stop : c.isDigit = false := plain c rfl
    simp [stop]

theorem isDigit_of_mem_toString {n : Nat} {d : Char} (hd : d ∈ (toString n).toList) :
    d.isDigit = true := by
  rw [Nat.toString_eq_repr, Nat.toList_repr] at hd
  exact Nat.isDigit_of_mem_toDigits (by decide) (by decide) hd

theorem leadingNumber_toString (n : Nat) {cs : List Char} (plain : StartsPlain cs) :
    leadingNumber ((toString n).toList ++ cs) = n := by
  rw [leadingNumber, takeWhile_digits (fun _ => isDigit_of_mem_toString) plain, Nat.toString_eq_repr,
    Nat.toList_repr]
  have fold := Nat.ofDigitChars_ten_toDigits (n := n)
  simp only [Nat.ofDigitChars_eq_foldl, Nat.mul_comm 10] at fold
  exact fold

theorem placeholders_param (n : Nat) {cs : List Char} (plain : StartsPlain cs) :
    placeholders ((Piece.param n).render.toList ++ cs) = n :: placeholders cs := by
  have noDollar : '$' ∉ (toString n).toList := by
    intro h
    simpa using isDigit_of_mem_toString h
  have first : ((toString n).toList ++ cs).head?.any Char.isDigit = true := by
    cases hd : (toString n).toList with
    | nil =>
      rw [Nat.toString_eq_repr, Nat.toList_repr] at hd
      exact absurd hd Nat.toDigits_ne_nil
    | cons d ds =>
      have digit : d.isDigit = true := isDigit_of_mem_toString (hd ▸ List.mem_cons_self)
      simpa using digit
  simp only [Piece.render, String.toList_append]
  change placeholders ('$' :: ((toString n).toList ++ cs)) = _
  simp only [placeholders, first, decide_true, Bool.and_self, ↓reduceIte,
    leadingNumber_toString n plain, placeholders_skip noDollar]

def Spaced : List Piece → Prop
  | [] => True
  | .text _ :: rest => Spaced rest
  | .param _ :: rest => StartsPlain (renderPieces rest).toList ∧ Spaced rest

theorem toList_renderPieces_cons (p : Piece) (ps : List Piece) :
    (renderPieces (p :: ps)).toList = p.render.toList ++ (renderPieces ps).toList := by
  simp [renderPieces]

theorem placeholders_render {ps : List Piece} (spaced : Spaced ps)
    (plain : ∀ s, .text s ∈ ps → '$' ∉ s.toList) :
    placeholders (renderPieces ps).toList = paramNumbers ps := by
  induction ps with
  | nil => rfl
  | cons p ps ih =>
    have rest (h : Spaced ps) := ih h fun s hs => plain s (List.mem_cons_of_mem p hs)
    rw [toList_renderPieces_cons]
    cases p with
    | text s =>
      rw [Piece.render, placeholders_skip (plain s List.mem_cons_self), paramNumbers_text]
      exact rest spaced
    | param n =>
      rw [placeholders_param n spaced.1, paramNumbers_param, rest spaced.2]

theorem startsPlain_append {ps qs : List Piece} (hp : StartsPlain (renderPieces ps).toList)
    (hq : StartsPlain (renderPieces qs).toList) : StartsPlain (renderPieces (ps ++ qs)).toList := by
  rw [renderPieces, List.map_append, String.join_append, String.toList_append]
  change StartsPlain ((renderPieces ps).toList ++ (renderPieces qs).toList)
  cases h : (renderPieces ps).toList with
  | nil => exact hq
  | cons c cs => exact fun d hd => hp d (h ▸ hd)

theorem spaced_append {ps qs : List Piece} (hp : Spaced ps) (hq : Spaced qs)
    (plain : StartsPlain (renderPieces qs).toList) : Spaced (ps ++ qs) := by
  induction ps with
  | nil => exact hq
  | cons p ps ih =>
    cases p with
    | text s => exact ih hp
    | param n => exact ⟨startsPlain_append hp.1 plain, ih hp.2⟩

theorem startsPlain_text {s : String} (first : (s.toList.head?.any fun c => !c.isDigit) = true)
    (ps : List Piece) : StartsPlain (renderPieces (.text s :: ps)).toList := by
  rw [toList_renderPieces_cons, Piece.render]
  cases h : s.toList with
  | nil => simp [h] at first
  | cons c cs =>
    intro d hd
    obtain rfl : c = d := Option.some.inj hd
    simpa [h] using first

theorem spaced_of_no_places {ps : List Piece} (h : paramNumbers ps = []) : Spaced ps := by
  induction ps with
  | nil => exact trivial
  | cons p ps ih =>
    cases p with
    | text s => exact ih h
    | param n => simp [paramNumbers_param] at h

def Undollared (ps : List Piece) : Prop := ∀ s, .text s ∈ ps → '$' ∉ s.toList

theorem undollared_nil : Undollared [] := by
  intro s hs
  simp at hs

theorem undollared_text {s : String} {ps : List Piece} (h : '$' ∉ s.toList) (hp : Undollared ps) :
    Undollared (.text s :: ps) := by
  intro u hu
  rcases List.mem_cons.mp hu with same | hu
  · exact Piece.text.inj same ▸ h
  · exact hp u hu

theorem undollared_param {n : Nat} {ps : List Piece} (hp : Undollared ps) :
    Undollared (.param n :: ps) := by
  intro u hu
  rcases List.mem_cons.mp hu with same | hu
  · simp at same
  · exact hp u hu

theorem undollared_append {ps qs : List Piece} (hp : Undollared ps) (hq : Undollared qs) :
    Undollared (ps ++ qs) := by
  intro u hu
  rcases List.mem_append.mp hu with hu | hu
  · exact hp u hu
  · exact hq u hu

theorem dollar_append {a b : String} (ha : '$' ∉ a.toList) (hb : '$' ∉ b.toList) :
    '$' ∉ (a ++ b).toList := by
  rw [String.toList_append, List.mem_append, not_or]
  exact ⟨ha, hb⟩

theorem dollar_intercalate {names : List String} (h : ∀ name ∈ names, '$' ∉ name.toList) :
    '$' ∉ (",".intercalate names).toList := by
  rw [String.toList_intercalate]
  induction names with
  | nil => simp
  | cons name rest ih =>
    have tail := ih fun other ho => h other (List.mem_cons_of_mem name ho)
    cases rest with
    | nil => simpa using h name List.mem_cons_self
    | cons other rest =>
      simp only [List.map_cons, List.intercalate_cons_cons, List.mem_append, not_or] at tail ⊢
      exact ⟨⟨h name List.mem_cons_self, by decide⟩, tail⟩

namespace Statement

theorem spaced_between {sep : String} (first : (sep.toList.head?.any fun c => !c.isDigit) = true)
    {lists : List (List Piece)} (h : ∀ l ∈ lists, Spaced l) : Spaced (between sep lists) := by
  induction lists with
  | nil => exact trivial
  | cons a rest ih =>
    have tail := ih fun l hl => h l (List.mem_cons_of_mem a hl)
    cases rest with
    | nil => simpa [between] using h a List.mem_cons_self
    | cons b rest =>
      rw [between_cons_cons]
      exact spaced_append (h a List.mem_cons_self) tail (startsPlain_text first _)

theorem undollared_between {sep : String} (plain : '$' ∉ sep.toList) {lists : List (List Piece)}
    (h : ∀ l ∈ lists, Undollared l) : Undollared (between sep lists) := by
  induction lists with
  | nil => exact undollared_nil
  | cons a rest ih =>
    have tail := ih fun l hl => h l (List.mem_cons_of_mem a hl)
    cases rest with
    | nil => simpa [between] using h a List.mem_cons_self
    | cons b rest =>
      rw [between_cons_cons]
      exact undollared_append (h a List.mem_cons_self) (undollared_text plain tail)

theorem startsPlain_nil : StartsPlain (renderPieces []).toList := by
  intro c hc
  simp [renderPieces] at hc

theorem spaced_tokens (start count : Nat) : Spaced (tokens start count) := by
  refine spaced_between (by decide) fun l hl => ?_
  simp only [placesFrom, List.mem_map] at hl
  obtain ⟨n, -, rfl⟩ := hl
  exact ⟨startsPlain_nil, trivial⟩

theorem spaced_pairs {sep : String} (first : (sep.toList.head?.any fun c => !c.isDigit) = true)
    (start : Nat) (names : List String) : Spaced (between sep (pairsFrom start names)) := by
  refine spaced_between first fun l hl => ?_
  simp only [pairsFrom, List.mem_map] at hl
  obtain ⟨⟨name, i⟩, -, rfl⟩ := hl
  exact ⟨startsPlain_nil, trivial⟩

theorem spaced_rows (columns rows : Nat) : Spaced (between "," (rowPlaces columns rows)) := by
  refine spaced_between (by decide) fun l hl => ?_
  simp only [rowPlaces, List.mem_map] at hl
  obtain ⟨row, -, rfl⟩ := hl
  exact spaced_append (spaced_tokens _ _) trivial (startsPlain_text (by decide) [])

theorem startsPlain_conflictPieces (conflict : Conflict) :
    StartsPlain (renderPieces (conflictPieces conflict)).toList := by
  cases conflict with
  | none => exact startsPlain_nil
  | doNothing target =>
    simp only [conflictPieces]
    split
    · exact startsPlain_nil
    · exact startsPlain_text (by decide) _
  | doUpdate target set =>
    simp only [conflictPieces]
    split
    · exact startsPlain_nil
    · exact startsPlain_text (by decide) _

theorem spaced_pieces (s : Statement) : Spaced s.pieces := by
  cases s with
  | selectByKey table columns keys => exact spaced_pairs (by decide) 1 keys
  | selectAll table columns => exact trivial
  | insert table columns rows conflict returning =>
    -- What follows the places begins with no digit, and so the number of the last one ends there.
    refine spaced_append (spaced_append ?_ ?_ (startsPlain_conflictPieces conflict)) ?_ ?_
    · split
      · exact trivial
      · exact spaced_rows columns.length rows
    · exact spaced_of_no_places (paramNumbers_conflictPieces conflict)
    · split <;> exact trivial
    · split
      · exact startsPlain_nil
      · exact startsPlain_text (by decide) _
  | update table set keys =>
    simp only [pieces, List.append_assoc]
    have test : Spaced ([.text " WHERE "] ++ keyTest (set.length + 1) keys) :=
      spaced_pairs (by decide) _ keys
    have all : Spaced (between ", " (pairsFrom 1 set) ++
        ([.text " WHERE "] ++ keyTest (set.length + 1) keys)) :=
      spaced_append (spaced_pairs (by decide) 1 set) test (startsPlain_text (by decide) _)
    exact all
  | «exists» table keys => exact spaced_pairs (by decide) 1 keys
  | delete table keys => exact spaced_pairs (by decide) 1 keys
  | truncate table => exact trivial

def conflictNames : Conflict → List String
  | .none => []
  | .doNothing target => target
  | .doUpdate target set => target ++ set

def names : Statement → List String
  | .selectByKey table columns keys => table :: columns ++ keys
  | .selectAll table columns => table :: columns
  | .insert table columns _ conflict returning =>
    table :: columns ++ conflictNames conflict ++ returning
  | .update table set keys => table :: set ++ keys
  | .exists table keys => table :: keys
  | .delete table keys => table :: keys
  | .truncate table => [table]

theorem undollared_nameList {names : List String} (h : ∀ name ∈ names, '$' ∉ name.toList) :
    Undollared (nameList names) :=
  undollared_text (dollar_intercalate h) undollared_nil

theorem undollared_pairs {sep : String} (plain : '$' ∉ sep.toList) (start : Nat)
    {names : List String} (h : ∀ name ∈ names, '$' ∉ name.toList) :
    Undollared (between sep (pairsFrom start names)) := by
  refine undollared_between plain fun l hl => ?_
  simp only [pairsFrom, List.mem_map] at hl
  obtain ⟨⟨name, i⟩, hi, rfl⟩ := hl
  have there : name ∈ names := List.fst_mem_of_mem_zipIdx hi
  exact undollared_text (dollar_append (h name there) (by decide)) (undollared_param undollared_nil)

theorem undollared_tokens (start count : Nat) : Undollared (tokens start count) := by
  refine undollared_between (by decide) fun l hl => ?_
  simp only [placesFrom, List.mem_map] at hl
  obtain ⟨n, -, rfl⟩ := hl
  exact undollared_param undollared_nil

theorem undollared_rows (columns rows : Nat) :
    Undollared (between "," (rowPlaces columns rows)) := by
  refine undollared_between (by decide) fun l hl => ?_
  simp only [rowPlaces, List.mem_map] at hl
  obtain ⟨row, -, rfl⟩ := hl
  exact undollared_text (by decide)
    (undollared_append (undollared_tokens _ _) (undollared_text (by decide) undollared_nil))

theorem undollared_conflict {conflict : Conflict}
    (h : ∀ name ∈ conflictNames conflict, '$' ∉ name.toList) :
    Undollared (conflictPieces conflict) := by
  cases conflict with
  | none => exact undollared_nil
  | doNothing target =>
    simp only [conflictPieces]
    split
    · exact undollared_nil
    · exact undollared_text (by decide)
        (undollared_append (undollared_nameList h) (undollared_text (by decide) undollared_nil))
  | doUpdate target set =>
    simp only [conflictPieces]
    split
    · exact undollared_nil
    · have ht : ∀ name ∈ target, '$' ∉ name.toList := fun name hn => h name (List.mem_append_left _ hn)
      have hs : ∀ name ∈ set, '$' ∉ name.toList := fun name hn => h name (List.mem_append_right _ hn)
      refine undollared_append (undollared_text (by decide) (undollared_nameList ht)) ?_
      split
      · exact undollared_text (by decide) undollared_nil
      · refine undollared_text (by decide) (undollared_between (by decide) fun l hl => ?_)
        simp only [List.mem_map] at hl
        obtain ⟨name, hn, rfl⟩ := hl
        exact undollared_text (dollar_append (dollar_append (hs name hn) (by decide)) (hs name hn))
          undollared_nil

theorem undollared_pieces (s : Statement) (h : ∀ name ∈ s.names, '$' ∉ name.toList) :
    Undollared s.pieces := by
  cases s with
  | selectByKey table columns keys =>
    simp only [names, List.mem_append, List.mem_cons] at h
    refine undollared_append (undollared_append (undollared_append (undollared_text (by decide)
      (undollared_nameList fun name hn => h name (.inl (.inr hn)))) ?_) ?_) ?_
    · exact undollared_text (dollar_append (by decide) (h table (.inl (.inl rfl)))) undollared_nil
    · exact undollared_text (by decide) undollared_nil
    · exact undollared_pairs (by decide) 1 fun name hn => h name (.inr hn)
  | selectAll table columns =>
    simp only [names, List.mem_cons] at h
    refine undollared_append (undollared_text (by decide)
      (undollared_nameList fun name hn => h name (.inr hn))) ?_
    exact undollared_text (dollar_append (by decide) (h table (.inl rfl))) undollared_nil
  | insert table columns rows conflict returning =>
    simp only [names, List.mem_append, List.mem_cons] at h
    have ht := h table (.inl (.inl (.inl rfl)))
    refine undollared_append (undollared_append ?_
      (undollared_conflict fun name hn => h name (.inl (.inr hn)))) ?_
    · split
      · exact undollared_text (dollar_append (dollar_append (by decide) ht) (by decide)) undollared_nil
      · refine undollared_append (undollared_append (undollared_append ?_
          (undollared_nameList fun name hn => h name (.inl (.inl (.inr hn))))) ?_)
          (undollared_rows columns.length rows)
        · exact undollared_text (dollar_append (dollar_append (by decide) ht) (by decide)) undollared_nil
        · exact undollared_text (by decide) undollared_nil
    · split
      · exact undollared_nil
      · exact undollared_text (by decide) (undollared_nameList fun name hn => h name (.inr hn))
  | update table set keys =>
    simp only [names, List.mem_append, List.mem_cons] at h
    refine undollared_append (undollared_append (undollared_append (undollared_text
      (dollar_append (dollar_append (by decide) (h table (.inl (.inl rfl)))) (by decide)) undollared_nil)
      (undollared_pairs (by decide) 1 fun name hn => h name (.inl (.inr hn)))) ?_) ?_
    · exact undollared_text (by decide) undollared_nil
    · exact undollared_pairs (by decide) _ fun name hn => h name (.inr hn)
  | «exists» table keys =>
    simp only [names, List.mem_cons] at h
    refine undollared_append (undollared_text (dollar_append (dollar_append (by decide)
      (h table (.inl rfl))) (by decide)) undollared_nil) ?_
    exact undollared_pairs (by decide) 1 fun name hn => h name (.inr hn)
  | delete table keys =>
    simp only [names, List.mem_cons] at h
    refine undollared_append (undollared_text (dollar_append (dollar_append (by decide)
      (h table (.inl rfl))) (by decide)) undollared_nil) ?_
    exact undollared_pairs (by decide) 1 fun name hn => h name (.inr hn)
  | truncate table =>
    exact undollared_text (dollar_append (by decide) (h table List.mem_cons_self)) undollared_nil

theorem placeholders_pieces (s : Statement) (h : ∀ name ∈ s.names, '$' ∉ name.toList) :
    placeholders s.render.toList = List.range' 1 s.arity := by
  rw [render, placeholders_render (spaced_pieces s) (undollared_pieces s h), paramNumbers_pieces]

end Statement

end RowMapper
