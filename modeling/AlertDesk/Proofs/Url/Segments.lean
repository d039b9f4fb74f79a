import AlertDesk.Proofs.Url.Host
import AlertDesk.Proofs.Url.Path
import Mathlib.Data.List.TakeWhile

/-!
# AlertDesk.Proofs.Url.Segments

The path of a URL that has been read.  Its segments hold nothing that divides a
path or ends it, so what stands behind the path is found again at the first
question mark, and a path ends in a slash only if its last segment is empty.

Main facts:

* `segments_of_parse` — what the segments of a URL's path do not hold;
* `cutAt_marked` — what stands before a mark and behind it is found again;
* `text_trunk` — a path that others are added to is the path without its final slash.
-/

namespace AlertDesk.Url

open Text

variable {cs : List Char} {path : List String} {special : Bool} {u : Url}

/-! ## cutting -/

/-- The parts of a text hold its characters, but for the one that it was cut at. -/
theorem Form.splitAt_parts {sep c : Char} {p : List Char} (h : p ∈ Form.splitAt sep cs)
    (hc : c ∈ p) : c ≠ sep ∧ c ∈ cs := by
  induction cs generalizing p with
  | nil =>
      obtain rfl := List.mem_singleton.mp h
      contradiction
  | cons d cs ih =>
      rw [splitAt] at h
      split at h
      · obtain rfl | h := List.mem_cons.mp h
        · contradiction
        · exact (ih h hc).imp id (List.mem_cons_of_mem d)
      · next hd =>
          split at h
          · obtain rfl := List.mem_singleton.mp h
            obtain rfl := List.mem_singleton.mp hc
            exact ⟨hd, List.mem_cons_self⟩
          · next first rest hsplit =>
              have hparts : ∀ q ∈ first :: rest, c ∈ q → c ≠ sep ∧ c ∈ d :: cs := fun q hq hcq =>
                (ih (hsplit ▸ hq) hcq).imp id (List.mem_cons_of_mem d)
              obtain rfl | h := List.mem_cons.mp h
              · obtain rfl | hc := List.mem_cons.mp hc
                · exact ⟨hd, List.mem_cons_self⟩
                · exact hparts first List.mem_cons_self hc
              · exact hparts p (List.mem_cons_of_mem _ h) hc

/-- What stands before a mark does not hold it. -/
theorem not_mem_cutAt (mark : Char) (cs : List Char) : mark ∉ (cutAt mark cs).1 := by
  unfold cutAt
  split
  · next h =>
      rw [List.dropWhile_eq_nil_iff] at h
      intro hmem
      simpa using h mark hmem
  · intro hmem
    simpa using List.mem_takeWhile_imp hmem

/-- A text is cut at its first mark. -/
theorem cutAt_marked {mark : Char} (h : mark ∉ cs) (part : Option String) :
    cutAt mark (cs ++ marked mark part) = (cs, part.map String.toList) := by
  have hcs : ∀ c ∈ cs, decide (c ≠ mark) = true := fun c hc =>
    decide_eq_true fun heq => h (heq ▸ hc)
  cases part with
  | none => simp only [cutAt, marked, List.append_nil, List.dropWhile_eq_nil_iff.mpr hcs,
      Option.map_none]
  | some s =>
      simp only [cutAt, marked, List.dropWhile_append_of_pos hcs,
        List.takeWhile_append_of_pos hcs]
      simp

/-! ## segments -/

namespace Path

/-- Nothing in the segment divides a path or ends it. -/
def Undivided (s : String) : Prop := ∀ c ∈ s.toList, c ≠ '/' ∧ c ≠ '?'

/-- Walking leaves no segments but those that were there, those that were entered, and
empty ones. -/
theorem mem_walk {steps : List Step} {s : String} (h : s ∈ walk path steps) :
    s ∈ path ∨ s = "" ∨ .enter s ∈ steps := by
  induction steps generalizing path with
  | nil => exact .inl h
  | cons step steps ih =>
      obtain h | h | h := ih h
      · have hstep : s ∈ path ∨ s = "" ∨ .enter s = step := by
          cases step with
          | enter segment => grind [take]
          | stay => grind [take]
          | back => grind [take, List.dropLast_subset]
        grind
      · exact .inr (.inl h)
      · exact .inr (.inr (List.mem_cons_of_mem _ h))

/-- Segments that are cut at slashes, from a text without a question mark, are undivided. -/
theorem undivided_of_mem_resolve {parts : List (List Char)}
    (hparts : ∀ p ∈ parts, '/' ∉ p ∧ '?' ∉ p) {s : String} (h : s ∈ resolve parts) :
    Undivided s := by
  obtain h | rfl | h := mem_walk h
  · contradiction
  · exact fun c hc => absurd hc List.not_mem_nil
  · obtain ⟨p, hp, hstep⟩ := List.mem_map.mp h
    have hs : s = String.ofList (Percent.encode Percent.pathSet p) := by
      unfold Step.of at hstep
      split at hstep
      · contradiction
      · contradiction
      · exact (Step.enter.inj hstep).symm
    subst hs
    intro c hc
    rw [String.toList_ofList] at hc
    obtain rfl | hdigit | ⟨hmem, -⟩ := Percent.mem_of_mem_encode hc
    · decide
    · constructor <;> rintro rfl <;> revert hdigit <;> decide
    · constructor <;> rintro rfl
      · exact (hparts p hp).1 hmem
      · exact (hparts p hp).2 hmem

theorem undivided_of_cutSlashes (h : '?' ∉ cs) {s : String}
    (hs : s ∈ resolve (cutSlashes special cs)) : Undivided s := by
  refine undivided_of_mem_resolve (fun p hp => ⟨fun hmem => ?_, fun hmem => ?_⟩) hs
  · exact (Form.splitAt_parts hp hmem).1 rfl
  · obtain ⟨c, hc, heq⟩ := List.mem_map.mp (Form.splitAt_parts hp hmem).2
    split at heq
    · contradiction
    · exact h (heq ▸ hc)

/-- The text of undivided segments has no question mark. -/
theorem not_mem_text (h : ∀ s ∈ path, Undivided s) : '?' ∉ text path := by
  intro hmem
  obtain ⟨s, hs, hmem⟩ := List.mem_flatMap.mp hmem
  obtain hslash | hmem := List.mem_cons.mp hmem
  · contradiction
  · exact (h s hs _ hmem).2 rfl

end Path

theorem not_mem_cutTail (special : Bool) (cs : List Char) : '?' ∉ (cutTail special cs).1 :=
  not_mem_cutAt '?' _

theorem undivided_of_readPath (h : '?' ∉ cs) {s : String} (hs : s ∈ readPath special cs) :
    Path.Undivided s := by
  unfold readPath at hs
  split at hs
  · split at hs
    · obtain rfl := List.mem_singleton.mp hs
      exact fun c hc => absurd hc List.not_mem_nil
    · contradiction
  · split at hs
    · exact Path.undivided_of_cutSlashes (fun hmem => h (List.mem_cons_of_mem _ hmem)) hs
    · exact Path.undivided_of_cutSlashes h hs

theorem segments_of_readWithAuthority {scheme : String}
    (h : readWithAuthority scheme cs = .ok u) (hpath : u.path = .segments path) :
    ∀ s ∈ path, Path.Undivided s := by
  unfold readWithAuthority at h
  simp only [bind_eq_ok_iff] at h
  obtain ⟨a, -, h⟩ := h
  obtain rfl := Except.ok.inj h
  obtain rfl := UrlPath.segments.inj hpath
  exact fun s => undivided_of_readPath (not_mem_cutTail _ _)

theorem segments_of_readFile (h : readFile cs = .ok u) (hpath : u.path = .segments path) :
    ∀ s ∈ path, Path.Undivided s := by
  obtain ⟨-, rest, hread⟩ := scheme_path_of_readFile h
  obtain rfl := UrlPath.segments.inj (hread.symm.trans hpath)
  refine fun s => Path.undivided_of_cutSlashes fun hmem => ?_
  exact not_mem_cutTail true rest (List.dropWhile_subset _ hmem)

theorem segments_of_readOther {scheme : String} (h : readOther scheme cs = .ok u)
    (hpath : u.path = .segments path) : ∀ s ∈ path, Path.Undivided s := by
  unfold readOther at h
  split at h
  · exact segments_of_readWithAuthority h hpath
  · next r _ =>
      have hmark := not_mem_cutTail false r
      obtain rfl := Except.ok.inj h
      obtain rfl := UrlPath.segments.inj hpath
      exact fun s => Path.undivided_of_cutSlashes hmark
  · obtain rfl := Except.ok.inj h
    contradiction

/-- **The segments of a URL that has been read are undivided.** -/
theorem segments_of_parse {text : String} (h : parse text = .ok u)
    (hpath : u.path = .segments path) : ∀ s ∈ path, Path.Undivided s := by
  unfold parse at h
  split at h
  · contradiction
  · split at h
    · exact segments_of_readFile h hpath
    · split at h
      · exact segments_of_readWithAuthority h hpath
      · exact segments_of_readOther h hpath

/-! ## the slash at the end -/

namespace Path

/-- A text without one slash at its end. -/
def stem (cs : List Char) : List Char := if cs.getLast? = some '/' then cs.dropLast else cs

theorem stem_subset (cs : List Char) : stem cs ⊆ cs := by
  unfold stem
  split
  · exact List.dropLast_subset cs
  · exact List.Subset.refl cs

theorem text_concat (path : List String) (s : String) :
    text (path ++ [s]) = text path ++ '/' :: s.toList := by
  simp [text]

theorem stem_text_concat {s : String} (hs : Undivided s) :
    stem (text (path ++ [s])) = if s = "" then text path else text (path ++ [s]) := by
  rw [text_concat]
  split
  · next h => simp [h, stem]
  · next h =>
      refine if_neg fun hlast => ?_
      obtain ⟨c, cs, hchars⟩ : ∃ c cs, s.toList = c :: cs :=
        List.exists_cons_of_ne_nil fun heq => h (String.toList_inj.mp heq)
      have hslash : s.toList.getLast? = some '/' := by
        simpa [hchars, List.getLast?_cons_cons] using hlast
      exact (hs _ (List.mem_of_getLast? hslash)).1 rfl

theorem trunk_subset (path : List String) : trunk path ⊆ path := by
  have hdrop : dropEmptyEnd path ⊆ path := by
    unfold dropEmptyEnd
    split
    · exact List.dropLast_subset path
    · exact List.Subset.refl path
  unfold trunk
  split
  · exact List.nil_subset path
  · exact hdrop

/-- **The segments that others can follow spell the path without its final slash.** -/
theorem text_trunk (h : ∀ s ∈ path, Undivided s) (hinner : "" ∉ path.dropLast) :
    text (trunk path) = stem (text path) := by
  obtain rfl | ⟨front, last, rfl⟩ := List.eq_nil_or_concat path
  · rfl
  · rw [List.concat_eq_append] at h hinner ⊢
    rw [List.dropLast_concat] at hinner
    rw [stem_text_concat (h last (by simp))]
    have hfront : front ≠ [""] := by
      rintro rfl
      exact hinner List.mem_cons_self
    split
    · next hlast =>
        subst hlast
        by_cases hempty : front = []
        · subst hempty
          rfl
        · have hdrop : dropEmptyEnd (front ++ [""]) = front := by
            have hlength : 1 < (front ++ [""]).length := by
              simpa using List.length_pos_iff.mpr hempty
            rw [dropEmptyEnd, if_pos ⟨hlength, List.getLast?_concat⟩, List.dropLast_concat]
          rw [trunk, hdrop, if_neg hfront]
    · next hlast =>
        have hkept : dropEmptyEnd (front ++ [last]) = front ++ [last] := by
          simp [dropEmptyEnd, hlast]
        have hne : front ++ [last] ≠ [""] := by
          intro heq
          simpa [hlast] using congrArg List.getLast? heq
        rw [trunk, hkept, if_neg hne]

end Path

end AlertDesk.Url
