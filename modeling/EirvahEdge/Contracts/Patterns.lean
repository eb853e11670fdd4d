import EirvahEdge.Contracts.Hops
import EirvahEdge.Lib.Hex
import EirvahEdge.Lib.Pattern

/-!
# Patterns of the contracts

The texts of a contract are checked by regular expressions, and two libraries read them.
`re.fullmatch` wants a match of the whole text, and its `$` also holds before a line break that
ends the text.  The `pattern` of a pydantic field is searched for, and its `$` holds at the end
only.  Every pattern of the contracts stands between `^` and `$`, so that both accept the same
texts, which are those of the checks that the other modules use.
-/

namespace EirvahEdge.Contracts

open EirvahEdge.Lib

/-- `re.fullmatch(pattern, value) is not None`. -/
def reFullmatch (pattern : Pattern Char) (value : String) : Bool :=
  pattern.fullmatch (atEndOrFinal (· == '\n')) value.toList

/-- `StringConstraints(...)`, or the constraints of a `Field(...)`. -/
structure StringConstraints where
  pattern : Pattern Char
  minLength : Option ℕ
  maxLength : Option ℕ

/-- The lengths are checked first. -/
def StringConstraints.accepts (c : StringConstraints) (value : String) : Bool :=
  c.minLength.all (fun n => decide (n ≤ value.length)) &&
    c.maxLength.all (fun n => decide (value.length ≤ n)) &&
    c.pattern.search atEnd value.toList

theorem reFullmatch_whole {parts : List (Repeat Char)} {value : String} :
    reFullmatch (.whole parts) value = true ↔ Pattern.Spells parts value.toList :=
  Pattern.fullmatch_whole rfl

/-- A pattern without lengths. -/
theorem StringConstraints.accepts_whole {parts : List (Repeat Char)} {value : String} :
    (StringConstraints.mk (.whole parts) none none).accepts value = true ↔
      Pattern.Spells parts value.toList := by
  simp only [accepts, Option.all_none, Bool.true_and]
  exact Pattern.search_whole

/-! ## Segments of a topic -/

/-- `_SEGMENT_RE`: `^[a-z0-9_]+$`. -/
def segmentRe : Pattern Char := .whole [.plus isSegmentChar]

/-- `_is_segment`. -/
def isSegmentText (value : String) : Bool := reFullmatch segmentRe value

/-- The constraints of a `UNSSegment`. -/
def unsSegment : StringConstraints := ⟨segmentRe, some 1, some 128⟩

/-- The pattern alone has no limit on the length. -/
theorem isSegmentText_iff {value : String} :
    isSegmentText value = true ↔
      value.toList ≠ [] ∧ ∀ c ∈ value.toList, isSegmentChar c = true :=
  reFullmatch_whole.trans (Pattern.spells_singleton.trans Repeat.spells_plus)

/-- A search by `re` would let a line break pass. -/
example : isSegmentText "a\n" = false ∧
    segmentRe.search (atEndOrFinal (· == '\n')) "a\n".toList = true := by
  decide

/-- The field and `_is_segment` read the same pattern; the lengths only add that a segment is
not too long. -/
theorem unsSegment_accepts_iff {value : String} :
    unsSegment.accepts value = true ↔ isSegmentText value = true ∧ value.length ≤ 128 := by
  have hsearch : segmentRe.search atEnd value.toList = isSegmentText value := by
    rw [Bool.eq_iff_iff]
    exact Pattern.search_whole.trans reFullmatch_whole.symm
  have hlength (h : isSegmentText value = true) : 1 ≤ value.length :=
    List.length_pos_iff.2 (isSegmentText_iff.1 h).1
  simp only [StringConstraints.accepts, unsSegment, hsearch, Option.all_some, Bool.and_eq_true,
    decide_eq_true_eq]
  grind

/-- `isSegment` is what the constraints of a segment accept. -/
theorem unsSegment_accepts (value : String) :
    unsSegment.accepts value = isSegment value.toList := by
  rw [Bool.eq_iff_iff, unsSegment_accepts_iff, isSegmentText_iff, isSegment, Bool.and_eq_true,
    Bool.and_eq_true, Bool.not_eq_true', List.isEmpty_eq_false_iff, List.all_eq_true,
    decide_eq_true_eq, String.length_toList]

/-! ## Identifiers and digests -/

/-- `_ULID_RE`: `^[0-9A-HJKMNP-TV-Z]{26}$`. -/
def ulidRe : Pattern Char := .whole [.times isUlidChar 26]

/-- `is_valid_correlation_id` is a match of `_ULID_RE`. -/
theorem isValidCorrelationId_eq (value : String) :
    isValidCorrelationId value = reFullmatch ulidRe value := by
  rw [Bool.eq_iff_iff, ulidRe, reFullmatch_whole, Pattern.spells_singleton,
    Repeat.spells_times, isValidCorrelationId,
    Bool.and_eq_true, beq_iff_eq, List.all_eq_true]

/-- `^[0-9a-f]{64}$`. -/
def digestRe : Pattern Char := .whole [.times Hex.isDigit 64]

/-- A `Field(pattern=...)` with the pattern of a digest accepts `isHexDigest`. -/
theorem isHexDigest_eq (value : String) :
    isHexDigest value = (StringConstraints.mk digestRe none none).accepts value := by
  rw [Bool.eq_iff_iff, digestRe, StringConstraints.accepts_whole, Pattern.spells_singleton,
    Repeat.spells_times, isHexDigest, Bool.and_eq_true, beq_iff_eq, List.all_eq_true]
  rfl

end EirvahEdge.Contracts
