import AlertDesk.Url.Path
import AlertDesk.Proofs.Url.Percent

/-!
# AlertDesk.Proofs.Url.Path

Where a segment leads that is added to a path.

Tabs and line breaks are dropped before the segment is looked at, so a text
that is neither empty nor made of dots may well be when it arrives.  `residue`
is what arrives, and `push_eq` goes by it.

Main facts:

* `dots?_encode` — an encoded text reads as dots only if it is dots;
* `push_eq` — an added segment takes one back if two dots arrive, and is
  otherwise the last one, with what arrived in it;
* `encode_isSegment` — and then it is one segment and nothing else.
-/

namespace AlertDesk.Url.Path

open Text

variable {set : Char → Bool} {special : Bool}

/-! ## dots -/

/-- Anything but a dot and `%` is no dot. -/
theorem dots?_other {c : Char} (hdot : c ≠ '.') (hpercent : c ≠ '%') (r : List Char) :
    dots? (c :: r) = none := by
  unfold dots?
  split <;> simp_all

/-- Nor is a byte that is written with `%`, unless its digits are those of the dot. -/
theorem dots?_percent {h l : Char} (hd : ¬ (h = '2' ∧ (l = 'e' ∨ l = 'E'))) (r : List Char) :
    dots? ('%' :: h :: l :: r) = none := by
  unfold dots?
  split <;> simp_all

/-- An encoded byte other than that of the dot is no dot. -/
theorem dots?_encodeByte {b : UInt8} (hb : b.toNat ≠ 0x2E) (r : List Char) :
    dots? (Percent.encodeByte b ++ r) = none := by
  refine dots?_percent ?_ r
  rintro ⟨h2, he⟩
  have hhigh := Percent.hexValue_hexDigit (b.toNat / 16)
  have hlow := Percent.hexValue_hexDigit b.toNat
  have hvalue2 : Percent.hexValue? (UInt8.ofNat '2'.toNat) = some 2 := by decide
  have hvaluee : Percent.hexValue? (UInt8.ofNat 'e'.toNat) = some 14 := by decide
  have hvalueE : Percent.hexValue? (UInt8.ofNat 'E'.toNat) = some 14 := by decide
  have hhigh' : b.toNat / 16 % 16 = 2 := by
    rw [h2, hvalue2, Option.some.injEq] at hhigh
    exact hhigh.symm
  have hlow' : b.toNat % 16 = 14 := by
    obtain he | he := he
    · rw [he, hvaluee, Option.some.injEq] at hlow
      exact hlow.symm
    · rw [he, hvalueE, Option.some.injEq] at hlow
      exact hlow.symm
  have := b.toNat_lt
  omega

/-- An encoded character other than the dot is no dot. -/
theorem dots?_encodeChar (hset : set '%' = true) {c : Char} (hc : c ≠ '.') (r : List Char) :
    dots? (Percent.encodeChar set c ++ r) = none := by
  unfold Percent.encodeChar
  split
  · next h =>
      have hkept : c.toNat < 0x80 ∧ set c = false := by simpa using h
      have hpercent : c ≠ '%' := by
        rintro rfl
        simp [hset] at hkept
      exact dots?_other hc hpercent r
  · by_cases hascii : c.toNat < 0x80
    · have hb : (UInt8.ofNat c.toNat).toNat ≠ 0x2E := by
        rw [Utf8.toNat_byte hascii]
        exact fun hnat => hc (Char.toNat_inj.mp hnat)
      rw [Utf8.encodeChar_ascii hascii]
      simpa using dots?_encodeByte hb r
    · obtain ⟨b, bs, hbytes, hlarge⟩ := Utf8.encodeChar_beyond hascii
      rw [hbytes, List.flatMap_cons, List.append_assoc]
      exact dots?_encodeByte (by omega) _

/-- **An encoded text reads as dots only if it is dots.** -/
theorem dots?_encode (hset : set '%' = true) (hdot : set '.' = false) (cs : List Char) (n : Nat) :
    dots? (Percent.encode set cs) = some n ↔ cs = List.replicate n '.' := by
  induction cs generalizing n with
  | nil => cases n <;> simp [dots?, List.replicate_succ]
  | cons c cs ih =>
      have hsplit : Percent.encode set (c :: cs) =
          Percent.encodeChar set c ++ Percent.encode set cs := rfl
      rw [hsplit]
      by_cases hc : c = '.'
      · subst hc
        have hplain : Percent.encodeChar set '.' = ['.'] := by simp [Percent.encodeChar, hdot]
        rw [hplain, List.singleton_append, dots?]
        cases n with
        | zero => simp
        | succ n => simp [ih, List.replicate_succ]
      · rw [dots?_encodeChar hset hc]
        cases n <;> simp [List.replicate_succ, hc]

/-! ## what arrives of a segment -/

/-- A text without its tabs and line breaks. -/
def kept (s : String) : List Char := s.toList.filter (!isDropped ·)

/-- What arrives of a text that is added as a segment: no tabs, no line breaks,
and nothing of a lone dot, which stays where it is as the empty segment does. -/
def residue (s : String) : List Char := if kept s = ['.'] then [] else kept s

theorem residue_ne_dot (s : String) : residue s ≠ ['.'] := by
  unfold residue
  split
  · simp
  · assumption

/-- A text without tabs and line breaks arrives as it is. -/
theorem residue_of_plain {s : String} (hdot : s ≠ ".") (h : ∀ c ∈ s.toList, isDropped c = false) :
    residue s = s.toList := by
  have hkept : kept s = s.toList := by
    rw [kept, List.filter_eq_self]
    intro c hc
    simp [h c hc]
  have hne : s.toList ≠ ['.'] := fun heq => hdot (String.toList_inj.mp heq)
  rw [residue, hkept, if_neg hne]

/-- One segment, whoever reads it: not empty, undivided, and not made of dots. -/
structure IsSegment (s : String) : Prop where
  nonempty : s ≠ ""
  undivided : ∀ c ∈ s.toList, c ≠ '/' ∧ c ≠ '\\' ∧ c ≠ '?' ∧ c ≠ '#'
  noDots : dots? s.toList ≠ some 1 ∧ dots? s.toList ≠ some 2

/-- The text of a segment that is added. -/
def segmentOf (special : Bool) (s : String) : String :=
  String.ofList (Percent.encode (Percent.segmentSet special) (residue s))

theorem segmentSet_percent : Percent.segmentSet special '%' = true := by cases special <;> rfl

theorem segmentSet_dot : Percent.segmentSet special '.' = false := by cases special <;> rfl

/-- A segment is read back. -/
theorem decodeChars_segmentOf (s : String) :
    Percent.decodeChars (segmentOf special s).toList = Utf8.encode (residue s) := by
  rw [segmentOf, String.toList_ofList, Percent.decodeChars_encode segmentSet_percent]

/-- Segments are the same if the same arrives. -/
theorem segmentOf_inj {s t : String} :
    segmentOf special s = segmentOf special t ↔ residue s = residue t := by
  constructor
  · intro h
    exact Percent.encode_injective segmentSet_percent (String.ofList_injective h)
  · intro h
    rw [segmentOf, segmentOf, h]

theorem segmentOf_eq_empty {s : String} : segmentOf special s = "" ↔ residue s = [] := by
  constructor
  · intro h
    have hnil : Percent.encode (Percent.segmentSet special) (residue s) =
        Percent.encode (Percent.segmentSet special) [] := String.ofList_injective h
    exact Percent.encode_injective segmentSet_percent hnil
  · intro h
    rw [segmentOf, h]
    rfl

/-- **What arrives is one segment**, unless nothing or two dots arrive. -/
theorem segmentOf_isSegment {s : String} (hempty : residue s ≠ [])
    (hback : residue s ≠ ['.', '.']) : IsSegment (segmentOf true s) where
  nonempty := fun h => hempty (segmentOf_eq_empty.mp h)
  undivided := by
    intro c hc
    rw [segmentOf, String.toList_ofList] at hc
    -- none of the four is a letter, a digit or `%`, and each is to be encoded
    refine ⟨?_, ?_, ?_, ?_⟩ <;> rintro rfl <;> obtain h | h | h := Percent.mem_encode hc <;>
      revert h <;> decide
  noDots := by
    rw [segmentOf, String.toList_ofList]
    constructor
    · intro h
      rw [dots?_encode segmentSet_percent segmentSet_dot] at h
      exact residue_ne_dot s h
    · intro h
      rw [dots?_encode segmentSet_percent segmentSet_dot] at h
      exact hback h

/-! ## adding it -/

/-- **Where a segment leads that is added**: one segment back if two dots
arrive, and otherwise to the segment of what arrives. -/
theorem push_eq {path : List String} {s : String} (hs : s ≠ "." ∧ s ≠ "..") (hp : path ≠ [""]) :
    push special path s =
      if residue s = ['.', '.'] then path.dropLast ++ [""] else path ++ [segmentOf special s] := by
  have hdots : ∀ n, dots? (encodeSegment special s) = some n ↔ kept s = List.replicate n '.' :=
    dots?_encode segmentSet_percent segmentSet_dot (kept s)
  by_cases hstay : kept s = ['.']
  · -- a lone dot leaves a slash at the end, as an empty segment does
    have hstep : Step.of (encodeSegment special s) = .stay := by
      simp [Step.of, (hdots 1).mpr hstay]
    simp [push, hs, hp, hstep, take, residue, hstay, segmentOf]
  · have hresidue : residue s = kept s := by rw [residue, if_neg hstay]
    by_cases hback : kept s = ['.', '.']
    · rw [push_parent hs hp ((hdots 2).mpr hback), hresidue, if_pos hback]
    · have hplain : push special path s = path ++ [String.ofList (encodeSegment special s)] :=
        push_plain hs hp ⟨fun h => hstay ((hdots 1).mp h), fun h => hback ((hdots 2).mp h)⟩
      rw [hplain, hresidue, if_neg hback, segmentOf, hresidue]
      rfl

/-! ## the place to add it -/

/-- The segments of a path that others can follow: an empty one at the end does
not count, and neither does the only one of `/`. -/
def trunk (path : List String) : List String :=
  if dropEmptyEnd path = [""] then [] else dropEmptyEnd path

theorem trunk_ne (path : List String) : trunk path ≠ [""] := by
  unfold trunk
  split
  · simp
  · assumption

theorem push_dropEmptyEnd {path : List String} {s : String} (hs : s ≠ "." ∧ s ≠ "..") :
    push special (dropEmptyEnd path) s = push special (trunk path) s := by
  unfold trunk
  split
  · next h => simp [push, hs, h]
  · rfl

@[simp] theorem text_append (a b : List String) : text (a ++ b) = text a ++ text b := by
  simp [text]

end AlertDesk.Url.Path
