import Mathlib.Data.List.Basic
import Mathlib.Data.List.Count
import Remittance.Proofs.Text.Decoding
import Remittance.RequestLines
/-!
# The lines of a file as they stand in it

`StandsBehind` says of a text, without cutting the file, that it stands there as one line behind
whole lines. A file is cut into exactly these lines (`split_of_standsBehind`,
`exists_standsBehind`), as many as there are line feeds in front (`length_split`). A line is a text
with its end just when it is one without it (`exists_text_iff`).
-/

namespace Remittance.RequestLines

open Text.Utf8 (encode decode)

variable {bytes front body line ending behind xs : List UInt8}
  {before after lines : List (List UInt8)} {cs : List Char}

/-- The bytes are whole lines, each with a line feed at its end. -/
inductive WholeLines : List UInt8 → Prop where
  | nil : WholeLines []
  | line {body front : List UInt8} (hfree : 10 ∉ body) (h : WholeLines front) :
    WholeLines (body ++ 10 :: front)

/-- What ends a line: a line feed, with the carriage return in front of it if there is one. The last
line of a file may end without a line feed, but not without any byte. -/
inductive EndsLine (content : List UInt8) : (ending behind : List UInt8) → Prop where
  | crlf (behind : List UInt8) : EndsLine content [13, 10] behind
  | lf (behind : List UInt8) (h : content.getLast? ≠ some 13) : EndsLine content [10] behind
  | file (h : content ≠ []) : EndsLine content [] []

/-- The text stands in the file as one line, without the end of this line, behind whole lines. -/
def StandsBehind (bytes front : List UInt8) (cs : List Char) : Prop :=
  WholeLines front ∧ '\n' ∉ cs ∧ ∃ ending behind,
    bytes = front ++ (encode cs ++ (ending ++ behind)) ∧ EndsLine (encode cs) ending behind

/-! ## Cutting a file -/

/-- The first line of a file ends with its first line feed. -/
lemma split_line (hfree : 10 ∉ body) (behind : List UInt8) :
    split (body ++ 10 :: behind) = (body ++ [10]) :: split behind := by
  induction body with
  | nil => simp [split]
  | cons b body ih =>
    rw [List.mem_cons, not_or] at hfree
    rw [List.cons_append, split, if_neg (Ne.symm hfree.1), ih hfree.2]
    rfl

/-- A file without a line feed is one line, if it is not empty. -/
lemma split_of_free (hfree : 10 ∉ body) (hne : body ≠ []) : split body = [body] := by
  induction body with
  | nil => exact absurd rfl hne
  | cons b body ih =>
    rw [List.mem_cons, not_or] at hfree
    rw [split, if_neg (Ne.symm hfree.1)]
    cases body with
    | nil => rfl
    | cons b' body => rw [ih hfree.2 (List.cons_ne_nil _ _)]

/-- A file is cut behind whole lines. -/
lemma split_append (hwhole : WholeLines front) (behind : List UInt8) :
    split (front ++ behind) = split front ++ split behind := by
  induction hwhole with
  | nil => rfl
  | line hfree _ ih =>
    rw [List.append_assoc, List.cons_append, split_line hfree, split_line hfree, ih,
      List.cons_append]

/-- There are as many whole lines as line feeds. -/
lemma length_split (hwhole : WholeLines front) : (split front).length = front.count 10 := by
  induction hwhole with
  | nil => rfl
  | line hfree _ ih =>
    rw [split_line hfree, List.length_cons, ih, List.count_append, List.count_cons_self,
      List.count_eq_zero.mpr hfree, Nat.zero_add]

/-! ## The first line -/

/-- A line feed in front of which no other one stands ends a line. -/
lemma exists_endsLine (hfree : 10 ∉ body) (behind : List UInt8) :
    ∃ xs ending, body ++ [10] = xs ++ ending ∧ 10 ∉ xs ∧ EndsLine xs ending behind := by
  by_cases hlast : body.getLast? = some 13
  · obtain ⟨xs, rfl⟩ := List.getLast?_eq_some_iff.mp hlast
    exact ⟨xs, [13, 10], by simp, fun hmem => hfree (List.mem_append_left _ hmem), .crlf behind⟩
  · exact ⟨body, [10], rfl, hfree, .lf behind hlast⟩

/-- What ends a line in front of others is a line feed. -/
lemma EndsLine.exists_lf (h : EndsLine xs ending behind) (hfree : 10 ∉ xs) :
    (∃ body, 10 ∉ body ∧ xs ++ ending = body ++ [10]) ∨ ending = [] ∧ behind = [] ∧ xs ≠ [] := by
  cases h with
  | crlf => exact .inl ⟨xs ++ [13], by simpa using hfree, by simp⟩
  | lf => exact .inl ⟨xs, hfree, rfl⟩
  | file hne => exact .inr ⟨rfl, rfl, hne⟩

/-- The first line of a file is the one that ends first. -/
lemma split_of_endsLine (hfree : 10 ∉ xs) (h : EndsLine xs ending behind) :
    split (xs ++ (ending ++ behind)) = (xs ++ ending) :: split behind := by
  rcases h.exists_lf hfree with ⟨body, hbody, heq⟩ | ⟨rfl, rfl, hne⟩
  · rw [← List.append_assoc, heq, List.append_assoc]
    exact split_line hbody behind
  · rw [List.append_nil, List.append_nil, split_of_free hfree hne]
    rfl

lemma exists_of_split_eq_cons (h : split bytes = line :: lines) :
    ∃ xs ending behind, line = xs ++ ending ∧ 10 ∉ xs ∧ EndsLine xs ending behind ∧
      bytes = line ++ behind ∧ split behind = lines := by
  by_cases hmem : 10 ∈ bytes
  · obtain ⟨body, behind, rfl, hfree⟩ := List.eq_append_cons_of_mem hmem
    rw [split_line hfree] at h
    obtain ⟨rfl, rfl⟩ := List.cons.inj h
    obtain ⟨xs, ending, hline, hxs, hends⟩ := exists_endsLine hfree behind
    exact ⟨xs, ending, behind, hline, hxs, hends, by simp, rfl⟩
  · have hne : bytes ≠ [] := by
      rintro rfl
      cases h
    rw [split_of_free hmem hne] at h
    obtain ⟨rfl, rfl⟩ := List.cons.inj h
    exact ⟨bytes, [], [], by simp, hmem, .file hne, by simp, rfl⟩

/-! ## The content of a line -/

/-- The content of a line is what stands in front of its end. -/
lemma content_append (hfree : 10 ∉ xs) (h : EndsLine xs ending behind) :
    content (xs ++ ending) = xs := by
  rcases List.eq_nil_or_concat' xs with rfl | ⟨ys, b, rfl⟩
  · cases h with
    | crlf => rfl
    | lf => rfl
    | file hne => exact absurd rfl hne
  · cases h with
    | crlf => simp [content]
    | lf _ hlast =>
      have hb : b ≠ 13 := by simpa using hlast
      simp [content, hb]
    | file =>
      have hb : b ≠ 10 := by
        rintro rfl
        simp at hfree
      simp [content, hb]

/-- A line is its content and its end. -/
lemma content_cases (line : List UInt8) :
    line = content line ∨ line = content line ++ [10] ∨ line = content line ++ [13, 10] := by
  unfold content
  split
  · next before hline => exact .inr (.inr ((List.reverse_eq_iff.mp hline).trans (by simp)))
  · next before _ hline => exact .inr (.inl ((List.reverse_eq_iff.mp hline).trans (by simp)))
  · exact .inl rfl

/-- A line is a text without its end just when it is one with it. -/
lemma exists_text_iff : (∃ cs, text line = .ok cs) ↔ ∃ cs, line = encode cs := by
  constructor
  · rintro ⟨cs, htext⟩
    have hcontent : content line = encode cs := Text.Utf8.decode_eq_ok_iff.mp htext
    rcases content_cases line with hline | hline | hline
    · exact ⟨cs, by rw [hline, hcontent]⟩
    · exact ⟨cs ++ ['\n'], by rw [hline, hcontent, Text.Utf8.encode_append]; rfl⟩
    · exact ⟨cs ++ ['\r', '\n'], by rw [hline, hcontent, Text.Utf8.encode_append]; rfl⟩
  · rintro ⟨cs, hline⟩
    have hcontent : ∃ ds, content line = encode ds := by
      rcases content_cases line with hsplit | hsplit | hsplit
      · exact ⟨cs, hsplit.symm.trans hline⟩
      · exact Text.Utf8.exists_encode_of_concat (b := 10) (by decide) (hline.symm.trans hsplit)
      · have hbytes : encode cs = (content line ++ [13]) ++ [10] := by
          rw [← hline, List.append_assoc]
          exact hsplit
        obtain ⟨ds, hds⟩ := Text.Utf8.exists_encode_of_concat (by decide) hbytes
        exact Text.Utf8.exists_encode_of_concat (b := 13) (by decide) hds.symm
    obtain ⟨ds, hds⟩ := hcontent
    exact ⟨ds, Text.Utf8.decode_eq_ok_iff.mpr hds⟩

/-! ## Where a text stands -/

/-- A text that stands in the file as one line is read from the line behind those in front. -/
lemma split_of_standsBehind (h : StandsBehind bytes front cs) :
    ∃ line after, split bytes = split front ++ line :: after ∧ text line = .ok cs := by
  obtain ⟨hwhole, hbreak, ending, behind, rfl, hends⟩ := h
  have hfree : 10 ∉ encode cs := fun hmem => hbreak (Text.Utf8.line_break_mem_encode hmem)
  refine ⟨encode cs ++ ending, split behind, ?_, ?_⟩
  · rw [split_append hwhole, split_of_endsLine hfree hends]
  · rw [text, content_append hfree hends, Text.Utf8.decode_encode]

/-- The text of each line stands in the file as one line, behind the lines in front of it. -/
lemma exists_standsBehind (h : split bytes = before ++ line :: after) (htext : text line = .ok cs) :
    ∃ front, split front = before ∧ StandsBehind bytes front cs := by
  induction before generalizing bytes with
  | nil =>
    obtain ⟨xs, ending, behind, rfl, hfree, hends, rfl, -⟩ := exists_of_split_eq_cons h
    have hxs : xs = encode cs := by
      rw [text, content_append hfree hends] at htext
      exact Text.Utf8.decode_eq_ok_iff.mp htext
    refine ⟨[], rfl, .nil, fun hbreak => hfree ?_, ending, behind, ?_, hxs ▸ hends⟩
    · rw [hxs]
      exact List.mem_flatMap.mpr ⟨'\n', hbreak, by decide⟩
    · rw [← hxs, List.nil_append, List.append_assoc]
  | cons first before ih =>
    obtain ⟨xs, ending, behind, rfl, hfree, hends, rfl, hbehind⟩ := exists_of_split_eq_cons h
    obtain ⟨front, hfront, hwhole, hbreak, ending', behind', rfl, hends'⟩ := ih hbehind
    rcases hends.exists_lf hfree with ⟨body, hbody, heq⟩ | ⟨-, hnil, -⟩
    · refine ⟨body ++ 10 :: front, ?_, .line hbody hwhole, hbreak, ending', behind', ?_, hends'⟩
      · rw [split_line hbody, heq, hfront]
      · rw [heq, List.append_assoc, List.append_assoc]
        rfl
    · -- the first line is not the last one
      rw [hnil] at hbehind
      cases before <;> cases hbehind

end Remittance.RequestLines
