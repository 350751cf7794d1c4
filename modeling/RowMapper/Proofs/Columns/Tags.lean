import Mathlib.Data.List.Forall2
import RowMapper.Column
import RowMapper.Proofs.Text.Casing

/-!
A field tag by its segments. The first segment names the column, each later one may set flags, and no two segments act
together: so the order of the later segments, their number and the case of their Latin letters do not matter, nor do
segments without a keyword.
-/
namespace RowMapper

/-! ### Flags by their keywords -/

inductive Flag where
  | primaryKey
  | uniqueKey
  | auto
  | nullable
  | readOnly
  | json
  | inlined
  deriving DecidableEq, Repr

namespace Flag

def keywords : Flag → List String
  | .primaryKey => ["pk"]
  | .uniqueKey => ["uk"]
  | .auto => ["serial", "auto"]
  | .nullable => ["nullable"]
  | .readOnly => ["readonly"]
  | .json => ["json"]
  | .inlined => ["inline"]

/-- A text contains a keyword of the flag when it is lower-cased. -/
def MentionedIn (flag : Flag) (text : List Char) : Prop :=
  ∃ keyword ∈ flag.keywords, keyword.toList <:+: Text.lower text

theorem isWord_of_mem_keywords {flag : Flag} {keyword : String} (known : keyword ∈ flag.keywords) :
    Text.IsWord keyword.toList := by
  have all : ∀ k ∈ flag.keywords, k.toList ≠ [] ∧ k.toList.all Char.isLower = true := by
    cases flag <;> decide
  exact ⟨(all keyword known).1, List.all_eq_true.mp (all keyword known).2⟩

theorem mentionedIn_joinWith_iff (flag : Flag) (pieces : List (List Char)) :
    flag.MentionedIn (Text.joinWith [','] pieces) ↔ ∃ piece ∈ pieces, flag.MentionedIn piece := by
  constructor
  · rintro ⟨keyword, known, there⟩
    obtain ⟨piece, inside, found⟩ := (Text.infix_lower_joinWith_iff (isWord_of_mem_keywords known) pieces).mp there
    exact ⟨piece, inside, keyword, known, found⟩
  · rintro ⟨piece, inside, keyword, known, found⟩
    exact ⟨keyword, known, (Text.infix_lower_joinWith_iff (isWord_of_mem_keywords known) pieces).mpr
      ⟨piece, inside, found⟩⟩

theorem mentionedIn_trimEnd_iff (flag : Flag) (text : List Char) :
    flag.MentionedIn (Text.trimEnd text) ↔ flag.MentionedIn text :=
  exists_congr fun _ => and_congr_right fun known => Text.infix_lower_trimEnd_iff (isWord_of_mem_keywords known) text

theorem mentionedIn_congr (flag : Flag) {text text' : List Char} (same : Text.lowerAscii text = Text.lowerAscii text') :
    flag.MentionedIn text ↔ flag.MentionedIn text' :=
  exists_congr fun _ => and_congr_right fun known => Text.infix_lower_congr (isWord_of_mem_keywords known) same

theorem not_mentionedIn_nil (flag : Flag) : ¬ flag.MentionedIn [] := by
  rintro ⟨keyword, known, there⟩
  exact (isWord_of_mem_keywords known).ne_nil (List.infix_nil.mp there)

end Flag

namespace Flags

def has (f : Flags) : Flag → Bool
  | .primaryKey => f.primaryKey
  | .uniqueKey => f.uniqueKey
  | .auto => f.auto
  | .nullable => f.nullable
  | .readOnly => f.readOnly
  | .json => f.json
  | .inlined => f.inlined

theorem ext_has {f g : Flags} (same : ∀ flag, f.has flag = true ↔ g.has flag = true) : f = g := by
  have each (flag : Flag) : f.has flag = g.has flag := Bool.eq_iff_iff.mpr (same flag)
  cases f
  cases g
  simp only [mk.injEq]
  exact ⟨each .primaryKey, each .uniqueKey, each .auto, each .nullable, each .readOnly, each .json, each .inlined⟩

theorem has_ofChars_iff (text : List Char) (flag : Flag) : (ofChars text).has flag = true ↔ flag.MentionedIn text := by
  cases flag <;> simp [has, ofChars, Flag.MentionedIn, Flag.keywords, Text.hasPart_iff]

theorem none_eq : none = ofChars [] := by decide

end Flags

/-! ### Segments -/

namespace Tag

/-- The segments of a tag, which are what stands between its commas. -/
structure Segments (tag first : List Char) (later : List (List Char)) : Prop where
  whole : tag = Text.joinWith [','] (first :: later)
  plain : ∀ segment ∈ first :: later, ',' ∉ segment

variable {tag tag' first first' : List Char} {later later' : List (List Char)}

theorem exists_segments (tag : List Char) : ∃ first later, Segments tag first later := by
  obtain ⟨first, later, whole, -, plain⟩ := Text.exists_pieces ',' tag
  exact ⟨first, later, whole, plain⟩

def nameOf (first : List Char) : Option String :=
  if (Text.trim first).isEmpty then none else some (String.ofList (Text.trim first))

theorem parse?_of_single (plain : ',' ∉ first) (kept : Text.trim first ≠ ['-']) :
    parse? first = some ⟨nameOf first, .ofChars []⟩ := by
  have plain' : ',' ∉ Text.trim first := fun there => plain (Text.trim_subset first there)
  simp only [parse?, if_neg kept, nameOf, Text.splitAt_of_not_mem plain', Text.trim_trim]
  split
  · rw [Flags.none_eq]
  · rfl

theorem solid_comma : Text.isBlank ',' = false := by decide

theorem parse?_of_append (plain : ',' ∉ first) (rest : List Char) (kept : Text.trim (first ++ ',' :: rest) ≠ ['-']) :
    parse? (first ++ ',' :: rest) = some ⟨nameOf first, .ofChars (Text.trimEnd rest)⟩ := by
  have plain' : ',' ∉ Text.trimStart first := fun there => plain (Text.trimStart_subset first there)
  rw [Text.trim_append solid_comma] at kept
  simp only [parse?, Text.trim_append solid_comma, if_neg kept, nameOf, Text.splitAt_append plain', Text.trim_trimStart,
    Text.joinWith_splitAt]
  simp

/-- A tag that does not leave its field out is read segment by segment. -/
theorem parse?_of_segments (cut : Segments tag first later) (kept : Text.trim tag ≠ ['-']) :
    ∃ flags : Flags, parse? tag = some ⟨nameOf first, flags⟩ ∧
      ∀ flag, flags.has flag = true ↔ ∃ segment ∈ later, flag.MentionedIn segment := by
  obtain ⟨whole, plain⟩ := cut
  have first_plain := plain first List.mem_cons_self
  cases later with
  | nil =>
    rw [Text.joinWith] at whole
    subst whole
    refine ⟨_, parse?_of_single first_plain kept, fun flag => ?_⟩
    rw [Flags.has_ofChars_iff]
    simpa using flag.not_mentionedIn_nil
  | cons next more =>
    rw [Text.joinWith_cons_cons, List.singleton_append] at whole
    subst whole
    refine ⟨_, parse?_of_append first_plain _ kept, fun flag => ?_⟩
    rw [Flags.has_ofChars_iff, Flag.mentionedIn_trimEnd_iff, Flag.mentionedIn_joinWith_iff]

theorem parse?_eq_none_iff (tag : List Char) : parse? tag = none ↔ Text.trim tag = ['-'] := by
  constructor
  · intro out
    by_contra kept
    obtain ⟨first, later, cut⟩ := exists_segments tag
    obtain ⟨flags, parsed, -⟩ := parse?_of_segments cut kept
    rw [out] at parsed
    cases parsed
  · intro out
    rw [parse?, if_pos out]

/-! ### Segments written in another way -/

/-- Ways to write the later segments that say the same. -/
inductive Rewritten : List (List Char) → List (List Char) → Prop where
  | permuted {later later' : List (List Char)} (h : later.Perm later') : Rewritten later later'
  | duplicated {segment : List Char} {later : List (List Char)} (h : segment ∈ later) :
    Rewritten later (later ++ [segment])
  | recased {later later' : List (List Char)}
    (h : List.Forall₂ (fun s s' => Text.lowerAscii s = Text.lowerAscii s') later later') : Rewritten later later'
  | extended {later more : List (List Char)} (h : ∀ segment ∈ more, ∀ flag : Flag, ¬ flag.MentionedIn segment) :
    Rewritten later (later ++ more)
  | trans {later between later' : List (List Char)} (h : Rewritten later between) (h' : Rewritten between later') :
    Rewritten later later'

theorem Rewritten.mentioned_iff (h : Rewritten later later') (flag : Flag) :
    (∃ segment ∈ later', flag.MentionedIn segment) ↔ ∃ segment ∈ later, flag.MentionedIn segment := by
  induction h with
  | permuted h => simp only [h.mem_iff]
  | @duplicated segment later h =>
    constructor
    · rintro ⟨other, there, said⟩
      rcases List.mem_append.mp there with there | there
      · exact ⟨other, there, said⟩
      · exact ⟨segment, h, List.mem_singleton.mp there ▸ said⟩
    · rintro ⟨other, there, said⟩
      exact ⟨other, List.mem_append_left _ there, said⟩
  | recased h =>
    induction h with
    | nil => rfl
    | cons same _ ih =>
      simp only [List.mem_cons, exists_eq_or_imp, ih, flag.mentionedIn_congr same]
  | @extended later more h =>
    constructor
    · rintro ⟨other, there, said⟩
      rcases List.mem_append.mp there with there | there
      · exact ⟨other, there, said⟩
      · exact absurd said (h other there flag)
    · rintro ⟨other, there, said⟩
      exact ⟨other, List.mem_append_left _ there, said⟩
  | trans _ _ ih ih' => exact ih'.trans ih

theorem Rewritten.eq_nil (h : Rewritten later later') (empty : later' = []) : later = [] := by
  induction h with
  | permuted h => exact List.perm_nil.mp (empty ▸ h)
  | duplicated h => exact absurd empty (by simp)
  | recased h => exact List.forall₂_nil_right_iff.mp (empty ▸ h)
  | extended h => exact (List.append_eq_nil_iff.mp empty).1
  | trans _ _ ih ih' => exact ih (ih' empty)

theorem Rewritten.kept (h : Rewritten later later') (cut : Segments tag first later) (cut' : Segments tag' first later')
    (kept : Text.trim tag ≠ ['-']) : Text.trim tag' ≠ ['-'] := by
  -- With a later segment there is a comma in the tag; without one nothing was rewritten.
  cases later' with
  | nil =>
    have empty := h.eq_nil rfl
    rw [cut'.whole, ← empty, ← cut.whole]
    exact kept
  | cons next more =>
    intro out
    have comma : ',' ∈ Text.trim tag' := by
      rw [cut'.whole, Text.joinWith_cons_cons, List.singleton_append, Text.trim_append solid_comma]
      exact List.mem_append_right _ List.mem_cons_self
    rw [out] at comma
    exact absurd comma (by decide)

end Tag

/-! ### Columns -/

def Field.withTag (f : Field) (tag : String) : Field := .mk f.index f.name tag f.typeText f.holding f.nested

namespace Column

variable {f : Field} {c c' : Column} {tag' : String} {first first' : List Char} {later later' : List (List Char)}

theorem ofField?_eq_none_iff (f : Field) : ofField? f = none ↔ Text.trim f.tag.toList = ['-'] := by
  rw [ofField?, Option.map_eq_none_iff, Tag.parse?_eq_none_iff]

theorem ofField?_of_segments (cut : Tag.Segments f.tag.toList first later) (found : ofField? f = some c) :
    c.columnName = (Tag.nameOf first).getD (Text.lowered f.name) ∧
    ∀ flag, c.flags.has flag = true ↔ ∃ segment ∈ later, flag.MentionedIn segment := by
  have kept : Text.trim f.tag.toList ≠ ['-'] := fun out => by
    rw [(ofField?_eq_none_iff f).mpr out] at found
    cases found
  obtain ⟨flags, parsed, said⟩ := Tag.parse?_of_segments cut kept
  rw [ofField?, parsed] at found
  cases found
  exact ⟨rfl, said⟩

theorem ofField?_rewritten (cut : Tag.Segments f.tag.toList first later) (kept : Text.trim f.tag.toList ≠ ['-'])
    (cut' : Tag.Segments tag'.toList first later') (h : Tag.Rewritten later later') :
    ofField? (f.withTag tag') = ofField? f := by
  obtain ⟨flags, parsed, said⟩ := Tag.parse?_of_segments cut kept
  obtain ⟨flags', parsed', said'⟩ := Tag.parse?_of_segments cut' (h.kept cut cut' kept)
  have same : flags' = flags := Flags.ext_has fun flag => by rw [said, said', h.mentioned_iff]
  have read : Tag.parse? (f.withTag tag').tag.toList = Tag.parse? f.tag.toList := by
    rw [parsed, ← same]
    exact parsed'
  rw [ofField?, read]
  rfl

/-- The column of a field by the segments of its tag. There is none just when the tag is a dash. Otherwise its name is
the first segment without the white space around it, or the field's name in lower case where nothing is left of it, and
each flag is set just when one of the later segments, in lower case, contains a keyword of the flag. So the later
segments may be put in another order, said twice, written in other Latin letters or followed by segments without a
keyword, and the name segment has no say in the flags. -/
theorem tag_read_by_segments (f : Field) :
    (ofField? f = none ↔ Text.trim f.tag.toList = ['-']) ∧
    (∃ first later, Tag.Segments f.tag.toList first later) ∧
    ∀ first later, Tag.Segments f.tag.toList first later →
      (∀ c, ofField? f = some c →
        c.columnName =
          (if Text.trim first = [] then Text.lowered f.name else String.ofList (Text.trim first)) ∧
        ∀ flag : Flag, c.flags.has flag = true ↔ ∃ segment ∈ later, flag.MentionedIn segment) ∧
      (Text.trim f.tag.toList ≠ ['-'] → ∀ (tag' : String) (later' : List (List Char)),
        Tag.Segments tag'.toList first later' → Tag.Rewritten later later' →
        ofField? (f.withTag tag') = ofField? f) ∧
      (∀ (tag' : String) (first' : List Char), Tag.Segments tag'.toList first' later →
        ∀ c c', ofField? f = some c → ofField? (f.withTag tag') = some c' → c'.flags = c.flags) := by
  refine ⟨ofField?_eq_none_iff f, Tag.exists_segments _, fun first later cut => ⟨fun c found => ?_,
    fun kept tag' later' cut' h => ofField?_rewritten cut kept cut' h,
    fun tag' first' cut' c c' found found' => ?_⟩⟩
  · obtain ⟨name, said⟩ := ofField?_of_segments cut found
    refine ⟨name.trans ?_, said⟩
    simp only [Tag.nameOf, List.isEmpty_iff]
    split <;> rfl
  · have said := (ofField?_of_segments cut found).2
    have said' := (ofField?_of_segments (f := f.withTag tag') cut' found').2
    exact Flags.ext_has fun flag => by rw [said, said']

theorem tag_read_by_segments_shuffled :
    Tag.Segments "id, pk ,Json".toList "id".toList [" pk ".toList, "Json".toList] ∧
    Tag.Segments "id,json, PK ,JSON,index".toList "id".toList
      ["json".toList, " PK ".toList, "JSON".toList, "index".toList] ∧
    ofField? (.mk 0 "Id" "id,json, PK ,JSON,index" "i64" (.plain (.plain .int64)) none) =
      ofField? (.mk 0 "Id" "id, pk ,Json" "i64" (.plain (.plain .int64)) none) := by
  have cut : Tag.Segments "id, pk ,Json".toList "id".toList [" pk ".toList, "Json".toList] :=
    ⟨by decide, by decide⟩
  have cut' : Tag.Segments "id,json, PK ,JSON,index".toList "id".toList
      ["json".toList, " PK ".toList, "JSON".toList, "index".toList] :=
    ⟨by decide, by decide⟩
  have unknown : ∀ segment ∈ ["index".toList], ∀ flag : Flag, ¬ flag.MentionedIn segment := by
    rintro segment there flag ⟨keyword, known, found⟩
    have absent : ∀ k ∈ flag.keywords, Text.hasPart k.toList (Text.lower "index".toList) = false := by
      cases flag <;> decide
    rw [List.mem_singleton.mp there, ← Text.hasPart_iff, absent keyword known] at found
    cases found
  have rewritten : Tag.Rewritten [" pk ".toList, "Json".toList]
      ["json".toList, " PK ".toList, "JSON".toList, "index".toList] :=
    .trans (.permuted (.swap "Json".toList " pk ".toList []))
      (.trans (.duplicated List.mem_cons_self)
        (.trans (.recased (.cons (by decide) (.cons (by decide) (.cons (by decide) .nil)))) (.extended unknown)))
  exact ⟨cut, cut', ((tag_read_by_segments (.mk 0 "Id" "id, pk ,Json" "i64" (.plain (.plain .int64)) none)).2.2
    _ _ cut).2.1 (by decide) "id,json, PK ,JSON,index" _ cut' rewritten⟩

end Column

end RowMapper
