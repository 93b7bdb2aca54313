/-
This file spells texts as single segments of a path. A character stands for itself or is escaped;
one that would end the segment, the path or the target has to be escaped. A segment is decoded once,
to the text that it spells.
-/

import FleetPanel.Proofs.Http.Paths

namespace FleetPanel.Http

open Text

/-- The characters that end a segment, a path or a target. -/
def segmentEnds : List Char := ['/', '?', '#']

/-- A text as one segment of a path. Every character may be written as the escapes of its octets. -/
inductive SpelledSegment : List Char → List Char → Prop where
  | nil : SpelledSegment [] []
  | plain {character : Char} {segment text : List Char} (notPercent : character ≠ '%')
      (notEnd : character ∉ segmentEnds) (others : SpelledSegment segment text) :
      SpelledSegment (character :: segment) (character :: text)
  | escapes {character : Char} {escapes segment text : List Char}
      (escaped : Escaped escapes (String.utf8EncodeChar character))
      (others : SpelledSegment segment text) :
      SpelledSegment (escapes ++ segment) (character :: text)

variable {segment text path : List Char}

theorem decodePercentSegment (spelled : SpelledSegment segment text) :
    decodePercent (Utf8.encode segment) = Utf8.encode text := by
  induction spelled with
  | nil => rfl
  | plain notPercent _ _ inductionHypothesis =>
      rw [decodePercentCharacter notPercent, inductionHypothesis]
      rfl
  | escapes escaped _ inductionHypothesis =>
      rw [decodePercentEscaped escaped, inductionHypothesis]
      rfl

/-- A segment is decoded to the text that it spells. -/
theorem decodedSegment (spelled : SpelledSegment segment text) : decoded? segment = some text := by
  rw [decoded?, decodePercentSegment spelled, Utf8.decodeEncoded]

theorem noEndInSegment (spelled : SpelledSegment segment text) {mark : Char}
    (isEnd : mark ∈ segmentEnds) : mark ∉ segment := by
  obtain ⟨notPercent, noDigit⟩ : mark ≠ '%' ∧ digitIn? 16 mark = none := by
    simp only [segmentEnds, List.mem_cons, List.not_mem_nil, or_false] at isEnd
    rcases isEnd with rfl | rfl | rfl <;> decide
  induction spelled with
  | nil => exact List.not_mem_nil
  | plain _ notEnd _ inductionHypothesis =>
      refine List.not_mem_cons_of_ne_of_not_mem ?_ inductionHypothesis
      rintro rfl
      exact notEnd isEnd
  | escapes escaped _ inductionHypothesis =>
      rw [List.mem_append, not_or]
      exact ⟨notMemEscaped escaped notPercent noDigit, inductionHypothesis⟩

/-- Only the empty text is spelled by an empty segment. -/
theorem segmentFilled (spelled : SpelledSegment segment text) (filled : text ≠ []) :
    segment ≠ [] := by
  rintro rfl
  have decoded := decodedSegment spelled
  exact filled (Option.some.inj decoded).symm

theorem spanWhole {mark : Char} (none : mark ∉ text) : text.span (· != mark) = (text, []) := by
  simpa using spanBehind none []

/-- A path without a query is a target of its own. -/
theorem targetOfPath (rooted : path.head? = some '/') (noQuery : '?' ∉ path) (noMark : '#' ∉ path) :
    Target.ofText (String.ofList path) = ⟨path, []⟩ := by
  have sent : path.takeWhile (· != '#') = path := by
    have whole := spanWhole noMark
    rw [List.span_eq_takeWhile_dropWhile] at whole
    exact congrArg Prod.fst whole
  have started : (path.head? == some '/') = true := by simp [rooted]
  simp only [Target.ofText, String.toList_ofList, sent, started, Bool.true_or, ↓reduceIte,
    Target.ofPathAndQuery, spanWhole noQuery, List.drop_nil]

end FleetPanel.Http
