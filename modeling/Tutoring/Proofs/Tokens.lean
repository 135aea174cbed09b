import Mathlib.Data.Option.Basic
import Tutoring.Token.Payload

/-!
# What a token carries

A token that is issued is taken apart into the parts that it was made of: no part that is written
has a dot in it, and the written form of bytes is read back. So a token carries one payload, and an
issued token carries the claims that it was issued with.

* `Base64Url.decode?_encode`: every list of bytes is read back.
* `Token.Carries`: a token carries a payload that is signed under a secret.
* `Token.carries_issue`: an issued token carries its claims.
-/

namespace Tutoring

namespace Text.Base64Url

section Digits

theorem value?_digit : ∀ n < 64, value? (digit n) = some n := by decide +kernel

theorem digit_ne_dot (n : Nat) : '.' ≠ digit n := by
  by_cases small : n < 64
  · intro dot
    have known := value?_digit n small
    rw [← dot] at known
    cases known
  · have outside : alphabet.length ≤ n := Nat.le_of_not_lt small
    unfold digit
    rw [List.getD_eq_getElem?_getD, List.getElem?_eq_none outside]
    decide

/-- A dot never stands in a written form. -/
theorem dot_not_mem_encode (bytes : List UInt8) : '.' ∉ encode bytes := by
  fun_induction encode bytes with
  | case1 => exact List.not_mem_nil
  | case2 a => simp [digit_ne_dot]
  | case3 a b => simp [digit_ne_dot]
  | case4 a b c s ih => simp [digit_ne_dot, ih]

end Digits

section Bytes

variable {n : Nat} {s : List Char}

theorem values?_cons (small : n < 64) : values? (digit n :: s) = (values? s).map (n :: ·) := by
  unfold values?
  rw [List.mapM_cons, value?_digit n small]
  cases s.mapM value? <;> rfl

theorem toUInt8_eq {a : UInt8} (h : n = a.toNat) : n.toUInt8 = a := by
  subst h
  exact UInt8.ofNat_toNat

/-- Every list of bytes is read back from its written form. -/
theorem decode?_encode (bytes : List UInt8) : decode? (encode bytes) = some bytes := by
  unfold decode?
  fun_induction encode bytes with
  | case1 => rfl
  | case2 a =>
    have ha := a.toNat_lt
    rw [values?_cons (by omega), values?_cons (by omega)]
    show bytes? [_, _] = _
    unfold bytes?
    rw [if_pos (by omega), toUInt8_eq (a := a) (by omega)]
  | case3 a b =>
    have ha := a.toNat_lt
    have hb := b.toNat_lt
    rw [values?_cons (by omega), values?_cons (by omega), values?_cons (by omega)]
    show bytes? [_, _, _] = _
    unfold bytes?
    rw [if_pos (by omega), toUInt8_eq (a := a) (by omega), toUInt8_eq (a := b) (by omega)]
  | case4 a b c s ih =>
    have ha := a.toNat_lt
    have hb := b.toNat_lt
    have hc := c.toNat_lt
    rw [values?_cons (by omega), values?_cons (by omega), values?_cons (by omega),
      values?_cons (by omega)]
    obtain ⟨values, known, rest⟩ := Option.bind_eq_some_iff.1 ih
    rw [known]
    show bytes? (_ :: _ :: _ :: _ :: values) = _
    unfold bytes?
    rw [rest, toUInt8_eq (a := a) (by omega), toUInt8_eq (a := b) (by omega),
      toUInt8_eq (a := c) (by omega)]
    rfl

end Bytes

end Text.Base64Url

namespace Token

open Text

variable {wanted : List String} {secret secret' token payload payload' : String}

@[simp] theorem text?_part (v : Json) : text? (part v) wanted = some v.render := by
  unfold text? part
  rw [Base64Url.decode?_encode]
  exact Json.textOf?_encode wanted v.render

theorem dot_not_mem_part (v : Json) : '.' ∉ part v := Base64Url.dot_not_mem_encode _

theorem dot_not_mem_sign (secret : String) (signed : List Char) : '.' ∉ sign secret signed :=
  Base64Url.dot_not_mem_encode _

/-- The parts are those between the last two dots. -/
theorem Parts.ofChars?_eq_some {s : List Char} {p : Parts} :
    Parts.ofChars? s = some p ↔
      s = p.signed ++ '.' :: p.signature ∧ '.' ∉ p.claims ∧ '.' ∉ p.signature := by
  unfold Parts.ofChars?
  simp only [Option.bind_eq_bind, Option.bind_eq_some_iff, Option.pure_def, Option.some.injEq]
  constructor
  · rintro ⟨⟨signed, signature⟩, outer, ⟨header, claims⟩, inner, rfl⟩
    obtain ⟨rfl, plain⟩ := aroundLast?_eq_some_iff.1 outer
    obtain ⟨rfl, plain'⟩ := aroundLast?_eq_some_iff.1 inner
    exact ⟨rfl, plain', plain⟩
  · rintro ⟨rfl, plain', plain⟩
    exact ⟨_, aroundLast?_append _ plain, _, aroundLast?_append _ plain', rfl⟩

/-- A token of three parts carries a payload in its second part, of which the members of some names
are wanted: the first is a header of the way to sign, and the third the signature of the first two
under the secret. -/
inductive Carries (wanted : List String) (secret token payload : String) : Prop
  | intro (p : Parts) (header : String) (parts : token.toList = p.signed ++ '.' :: p.signature)
      (claims_plain : '.' ∉ p.claims) (signature_plain : '.' ∉ p.signature)
      (head : text? p.header (headerFields algorithm).names = some header)
      (signs : isHeader algorithm header = true) (signed : p.signature = sign secret p.signed)
      (body : text? p.claims wanted = some payload)

/-- Whoever has signed it, a token carries one payload. -/
theorem Carries.unique (h : Carries wanted secret token payload)
    (h' : Carries wanted secret' token payload') : payload' = payload := by
  obtain ⟨p, _, parts, plain, plain', _, _, _, body⟩ := h
  obtain ⟨q, _, parts', qplain, qplain', _, _, _, body'⟩ := h'
  have first := Parts.ofChars?_eq_some.2 ⟨parts, plain, plain'⟩
  have second := Parts.ofChars?_eq_some.2 ⟨parts', qplain, qplain'⟩
  obtain rfl := Option.some.inj (second.symm.trans first)
  exact Option.some.inj (body'.symm.trans body)

/-- The payload that is read is the one that a token carries. -/
theorem payload?_eq_some :
    payload? wanted secret token = some payload ↔ Carries wanted secret token payload := by
  unfold payload?
  simp only [Option.bind_eq_bind, Option.bind_eq_some_iff, Option.guard_eq_some']
  constructor
  · rintro ⟨p, parts, header, head, -, signs, -, signed, body⟩
    obtain ⟨whole, claims_plain, signature_plain⟩ := Parts.ofChars?_eq_some.1 parts
    exact .intro p header whole claims_plain signature_plain head signs signed body
  · rintro ⟨p, header, whole, claims_plain, signature_plain, head, signs, signed, body⟩
    have parts := Parts.ofChars?_eq_some.2 ⟨whole, claims_plain, signature_plain⟩
    exact ⟨p, parts, header, head, (), signs, (), signed, body⟩

theorem isHeader_header : isHeader algorithm header.render = true := by
  unfold isHeader Json.Reader.whole
  rw [Json.render, String.toList_ofList]
  decide +kernel

/-- An issued token carries its claims. -/
theorem carries_issue (wanted : List String) (secret : String) (claims : Json) :
    Carries wanted secret (issue secret claims) claims.render :=
  .intro ⟨part header, part claims, sign secret (part header ++ '.' :: part claims)⟩ header.render
    String.toList_ofList (dot_not_mem_part claims) (dot_not_mem_sign secret _) (text?_part header)
    isHeader_header rfl (text?_part claims)

end Token

end Tutoring
