import QuadCan.Proofs.Frame.Grammar

namespace QuadCan

namespace Frame

-- The line is over before the parser has seen what it needs.
inductive Unfinished : Except DecodeError Frame → Prop where
  | empty : Unfinished (.error .empty)
  | tooShort (needed actual : Nat) : Unfinished (.error (.tooShort needed actual))

-- A rule that is broken stays broken, unless it is the end of the line that breaks it. Each rule
-- looks only at bytes that the rules about the length have found to be there.
theorem Breaks.extend {text : String} {cause : DecodeError} (h : Breaks text cause)
    (hfinished : ¬ Unfinished (.error cause)) (more : String) : Breaks (text ++ more) cause := by
  have happend := Utf8.ofString_append text more
  cases h with
  | empty => exact absurd .empty hfinished
  | head => exact absurd (.tooShort _ _) hfinished
  | payload => exact absurd (.tooShort _ _) hfinished
  | @letter char chars htext hletter =>
    have hnonempty : Utf8.ofString text ≠ [] := by
      intro hnil
      have hdecode := Utf8.decode_encode text.toList
      rw [← Utf8.ofString, hnil, Utf8.decode_nil, htext] at hdecode
      cases hdecode
    obtain ⟨byte, rest, hline⟩ := List.exists_cons_of_ne_nil hnonempty
    have htext' : (text ++ more).toList = char :: (chars ++ more.toList) := by
      rw [String.toList_append, htext, List.cons_append]
    refine .letter htext' fun form => ?_
    have hhead := hletter form
    rw [hline, List.head?_cons] at hhead
    rwa [happend, hline, List.cons_append, List.head?_cons]
  | @id form id rest code hline hwidth hid =>
    rw [hline, List.cons_append, List.append_assoc, List.cons_append] at happend
    exact .id happend hwidth hid
  | @code form id rest code hline hwidth hid hcode =>
    rw [hline, List.cons_append, List.append_assoc, List.cons_append] at happend
    exact .code happend hwidth hid hcode
  | @pair form id good data rest code high low value length hline hwidth hid hcode hlength hkind
      hlong hgood hpair hbad =>
    have hlonger := Nat.le_trans hlong (Nat.le_add_right _ (Utf8.ofString more).length)
    rw [← List.length_append, ← happend] at hlonger
    rw [hline] at happend
    simp only [List.cons_append, List.append_assoc] at happend
    exact .pair happend hwidth hid hcode hlength hkind hlonger hgood hpair hbad

-- Once a line is long enough, what is read does not change any more.
theorem parse_append {text : String} (hfinished : ¬ Unfinished (parse (Utf8.ofString text)))
    (more : String) :
    parse (Utf8.ofString (text ++ more)) = parse (Utf8.ofString text) := by
  rcases spells_or_breaks text with ⟨parts, frame, hline, hspells⟩ | ⟨cause, hbreaks⟩
  · rw [Utf8.ofString_append, ← hline, Parts.line_eq, List.append_assoc,
      parse_front_append hspells, parse_front_append hspells]
  · have hparse := parse_of_breaks hbreaks
    rw [hparse] at hfinished ⊢
    exact parse_of_breaks (hbreaks.extend hfinished more)

-- More text changes nothing about a frame, nor about an error that is not for lack of text. Hence
-- a text that is cut off is read as the frame that it was cut from, or is found to be cut off.
theorem parse_append_of_finished (text : String) :
    (¬ Unfinished (parse (Utf8.ofString text)) → ∀ more : String,
      parse (Utf8.ofString (text ++ more)) = parse (Utf8.ofString text)) ∧
    ∀ (front back : String) (frame : Frame), front ++ back = text →
      parse (Utf8.ofString text) = .ok frame →
      parse (Utf8.ofString front) = .ok frame ∨ Unfinished (parse (Utf8.ofString front)) := by
  refine ⟨fun hfinished more => parse_append hfinished more, ?_⟩
  rintro front back frame rfl hframe
  by_cases hfinished : Unfinished (parse (Utf8.ofString front))
  · exact Or.inr hfinished
  · rw [parse_append hfinished] at hframe
    exact Or.inl hframe

end Frame

end QuadCan
