import Tutoring.Proofs.Literals
import Tutoring.Proofs.Passes
import Tutoring.Settings

/-!
# Where the server listens

The address is written as one text, the host, a colon and the port, and read back from it. Digits
are no colons, so the last colon of the text is the one behind the host, and no host can shift it:
whatever it holds, what is read in front of that colon is all of it, and what is read behind is the
port that is set.

* `ServerSettings.address_eq_ok`: the address is the one that the host and the port stand for.
* `listener_is_on_the_configured_port`: so accepted settings listen on the port that is set.
-/

namespace Tutoring

open Text

/-! ## The port -/

namespace Address

variable {text : List Char} {n : Nat}

/-- The number of a numeral is the one that its characters make. -/
theorem IsNumeral.eq_ofDigitChars (h : IsNumeral Numeral.digit? 10 text n) :
    n = Nat.ofDigitChars 10 text 0 := by
  obtain ⟨ds, -, spells, rfl⟩ := h
  rw [value, Nat.ofDigitChars_eq_foldl]
  generalize 0 = start
  induction text generalizing ds start with
  | nil =>
    obtain rfl : ds = [] := by simpa using spells.symm
    rfl
  | cons c text ih =>
    cases ds with
    | nil => cases spells
    | cons d ds =>
      obtain ⟨first, others⟩ := List.cons.inj spells
      obtain ⟨-, rfl⟩ := digit?_eq_some first
      exact ih ds others _

/-- A numeral in base ten is a decimal, leading zeros included. -/
theorem isNumeral_iff : IsNumeral Numeral.digit? 10 text n ↔ IsDecimal text n := by
  constructor
  · intro h
    refine ⟨?_, ?_, h.eq_ofDigitChars.symm⟩
    · rintro rfl
      obtain ⟨ds, ne_nil, spells, -⟩ := h
      exact ne_nil (List.map_eq_nil_iff.1 spells.symm)
    · intro c hc
      obtain ⟨d, digit⟩ := Option.isSome_iff_exists.1 (h.isSome c hc)
      exact (digit?_eq_some digit).1
  · intro h
    have spells : text.map Numeral.digit? = (text.map fun c => c.toNat - '0'.toNat).map some := by
      rw [List.map_map]
      exact List.map_congr_left fun c hc => if_pos (h.digits c hc)
    have numeral : IsNumeral Numeral.digit? 10 text _ :=
      ⟨_, mt List.map_eq_nil_iff.1 h.ne_nil, spells, rfl⟩
    have same := numeral.eq_ofDigitChars.trans h.value
    rwa [same] at numeral

theorem isNumeral_digits (n : Nat) : IsNumeral Numeral.digit? 10 (Numeral.digits n) n :=
  isNumeral_iff.2 (isDecimal_digits n)

/-- A number is written in one way without superfluous zeros, and read in one way. -/
theorem isNumeral_digits_iff {m : Nat} :
    IsNumeral Numeral.digit? 10 (Numeral.digits n) m ↔ m = n := by
  constructor
  · intro h
    exact (isNumeral_iff.1 h).value.symm.trans (isDecimal_digits n).value
  · rintro rfl
    exact isNumeral_digits m

/-- No numeral holds a colon. -/
theorem IsNumeral.colon_not_mem (h : IsNumeral Numeral.digit? 10 text n) : ':' ∉ text := by
  intro mem
  cases h.isSome _ mem

end Address

/-! ## The address -/

namespace ServerSettings

variable {s : ServerSettings} {a : SocketAddress}

theorem toList_addressText (s : ServerSettings) :
    s.addressText.toList = s.host.toList ++ ':' :: Numeral.digits s.port.toNat := by
  show (((s.host : String) ++ ":") ++ toString s.port.toNat).toList = _
  rw [String.toList_append, String.toList_append, Nat.toString_eq_repr, Nat.toList_repr]
  simp [Numeral.digits]

/-- The address is the one that the host and the port stand for, each of them taken alone. -/
theorem address_eq_ok :
    s.address = .ok a ↔ a.port = s.port ∧ Address.IsHost s.host.toList a.host := by
  have read : s.address = .ok a ↔ SocketAddress.ofText? s.addressText = some a := by
    unfold address
    cases SocketAddress.ofText? s.addressText with
    | none => exact ⟨nofun, nofun⟩
    | some b => simp
  rw [read, SocketAddress.ofText?, Address.ofChars?_eq_some, toList_addressText]
  constructor
  · rintro ⟨text, port, split, host, numeral⟩
    have last := aroundLast?_append text numeral.colon_not_mem
    have last' := aroundLast?_append s.host.toList
      (Address.isNumeral_digits s.port.toNat).colon_not_mem
    -- both are the texts around the last colon of the same text
    obtain ⟨rfl, rfl⟩ := Prod.mk.inj (Option.some.inj (last'.symm.trans (split ▸ last)))
    exact ⟨UInt16.toNat_inj.1 (Address.isNumeral_digits_iff.1 numeral), host⟩
  · rintro ⟨port, host⟩
    exact ⟨_, _, rfl, host, Address.isNumeral_digits_iff.2 (congrArg UInt16.toNat port)⟩

theorem validate_eq_ok : s.validate = .ok () ↔
    s.port ≠ 0 ∧ (1 ≤ s.timeout ∧ s.timeout ≤ maxTimeout) ∧ ∃ a, s.address = .ok a := by
  have inside : ¬(s.timeout < 1 ∨ maxTimeout < s.timeout) ↔
      1 ≤ s.timeout ∧ s.timeout ≤ maxTimeout := by
    rw [not_or, UInt64.not_lt, UInt64.not_lt]
  have last : (do let _ ← s.address : Except SettingsError Unit) = .ok () ↔
      ∃ a, s.address = .ok a := by
    rw [Json.bind_eq_ok]
    exact ⟨fun ⟨a, read, _⟩ => ⟨a, read⟩, fun ⟨a, read⟩ => ⟨a, read, rfl⟩⟩
  rw [validate, Json.check_eq_ok, Json.check_eq_ok, inside, last]

end ServerSettings

/-- **The server listens on the port that is set**, at the host that is set, whatever text the host
is: settings whose host is no host by itself are not accepted, and of the others none has another
address. -/
theorem listener_is_on_the_configured_port (s : ServerSettings) :
    (∀ a, s.address = .ok a ↔ a.port = s.port ∧ Address.IsHost s.host.toList a.host) ∧
      (s.validate = .ok () ↔
        s.port ≠ 0 ∧ (1 ≤ s.timeout ∧ s.timeout ≤ ServerSettings.maxTimeout) ∧
          ∃ a, s.address = .ok a ∧ a.port = s.port ∧ Address.IsHost s.host.toList a.host) := by
  refine ⟨fun a => ServerSettings.address_eq_ok, ServerSettings.validate_eq_ok.trans ?_⟩
  have same (a) : s.address = .ok a ↔
      s.address = .ok a ∧ a.port = s.port ∧ Address.IsHost s.host.toList a.host :=
    ⟨fun read => ⟨read, ServerSettings.address_eq_ok.1 read⟩, And.left⟩
  rw [exists_congr same]

/-- Brackets, colons, dots and a scope in the host leave the port alone, and a port that is written
into the host does not replace it. -/
theorem listener_is_on_the_configured_port_bracketed :
    (∃ a, ServerSettings.address { host := "[fe80::1.2.3.4%7]", port := 443 } = .ok a ∧
      a.port = 443 ∧ Address.IsHost "[fe80::1.2.3.4%7]".toList a.host) ∧
    ServerSettings.address { host := "127.0.0.1:80", port := 443 } =
      .error (.invalidAddress "127.0.0.1:80:443") := by
  have read : ServerSettings.address { host := "[fe80::1.2.3.4%7]", port := 443 } =
      .ok ⟨.long [0xfe80, 0, 0, 0, 0, 0, 0x102, 0x304] 7, 443⟩ := by decide
  have listens := (listener_is_on_the_configured_port _).1 _ |>.1 read
  exact ⟨⟨_, read, listens⟩, by decide⟩

end Tutoring
