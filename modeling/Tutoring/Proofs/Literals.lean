import Mathlib.Algebra.Group.Nat.Defs
import Mathlib.Data.List.Induction
import Tutoring.Settings.Address.Literal

/-!
# Hosts are read just as they are written

Every scanner takes the longest text of its kind off the front, and a text of this kind is taken off
if what follows cannot go on it. Texts are put together from left to right, so from numerals to
bytes and groups, and from there to hosts, each kind is read in the same way.

* `byte_eq_some`, `group_eq_some`, `decimal_eq_some`, `dotted_eq_some`: numerals.
* `groups_sound`, `groups_written`: groups with colons between them.
* `host_sound`, `host_written`: a text is read as a host in front of a colon just when it is one.
* `ofChars?_eq_some`: whole addresses.
-/

namespace Tutoring.Address

open Text

/-! ## Numerals -/

/-- No digit follows. -/
def Stops (digit? : Char → Option Nat) (rest : List Char) : Prop :=
  ∀ c ∈ rest.head?, digit? c = none

theorem Stops.isSome {digit? : Char → Option Nat} {rest : List Char} (h : Stops digit? rest) :
    ∀ c ∈ rest.head?, (digit? c).isSome = false := by
  intro c hc
  rw [h c hc]
  rfl

section Numerals

variable {digit? : Char → Option Nat} {s text rest : List Char} {ds : List Nat}

theorem isSome_of_spells (spells : text.map digit? = ds.map some) :
    ∀ c ∈ text, (digit? c).isSome = true := by
  intro c hc
  obtain ⟨d, -, hd⟩ := List.mem_map.1 (spells ▸ List.mem_map_of_mem (f := digit?) hc)
  rw [← hd]
  rfl

theorem digits_append (spells : text.map digit? = ds.map some) (stops : Stops digit? rest) :
    digits digit? (text ++ rest) = ds ∧ (text ++ rest).drop ds.length = rest := by
  have length : text.length = ds.length := by simpa using congrArg List.length spells
  constructor
  · rw [digits, takeWhile_run (isSome_of_spells spells) stops.isSome]
    calc text.filterMap digit?
        = (text.map digit?).filterMap id := by rw [List.filterMap_map]; rfl
      _ = ds := by rw [spells, List.filterMap_map]; exact List.filterMap_some
  · rw [← length]
    exact List.drop_left

/-- Every text starts with a run of digits, which may be empty. -/
theorem exists_digits (digit? : Char → Option Nat) (s : List Char) :
    ∃ (text rest : List Char) (ds : List Nat),
      s = text ++ rest ∧ text.map digit? = ds.map some ∧ Stops digit? rest := by
  induction s with
  | nil => exact ⟨[], [], [], rfl, rfl, nofun⟩
  | cons c s ih =>
    cases hc : digit? c with
    | none =>
      refine ⟨[], c :: s, [], rfl, rfl, fun d hd => ?_⟩
      rwa [← Option.some.inj hd]
    | some d =>
      obtain ⟨text, rest, ds, rfl, spells, stops⟩ := ih
      exact ⟨c :: text, rest, d :: ds, rfl, by simp [hc, spells], stops⟩

theorem value_append (base : Nat) (ds : List Nat) (d : Nat) :
    value base (ds ++ [d]) = base * value base ds + d := by
  simp [value]

/-- A number with a digit in front is not smaller than its first digit in its place. -/
theorem le_value_cons (base d : Nat) (ds : List Nat) :
    d * base ^ ds.length ≤ value base (d :: ds) := by
  unfold value
  rw [List.foldl_cons, Nat.mul_zero, Nat.zero_add]
  induction ds generalizing d with
  | nil => simp
  | cons e ds ih =>
    refine Nat.le_trans ?_ (ih (base * d + e))
    rw [List.length_cons, Nat.pow_succ', ← Nat.mul_assoc, Nat.mul_comm d]
    exact Nat.mul_le_mul_right _ (Nat.le_add_right _ _)

/-- A number has fewer values than its digits have. -/
theorem value_lt {base : Nat} (small : ∀ d ∈ ds, d < base) : value base ds < base ^ ds.length := by
  induction ds using List.reverseRecOn with
  | nil => exact Nat.one_pos
  | append_singleton ds d ih =>
    have front := ih fun e he => small e (List.mem_append_left _ he)
    have last := small d (by simp)
    rw [value_append, List.length_append, List.length_singleton, Nat.pow_succ']
    calc base * value base ds + d
        < base * value base ds + base := Nat.add_lt_add_left last _
      _ = base * (value base ds + 1) := rfl
      _ ≤ base * base ^ ds.length := Nat.mul_le_mul_left base front

theorem digit?_eq_some {c : Char} {d : Nat} (h : Numeral.digit? c = some d) :
    c.isDigit = true ∧ c.toNat - 48 = d := by
  unfold Numeral.digit? at h
  split at h
  · exact ⟨‹_›, Option.some.inj h⟩
  · cases h

theorem eq_zero_iff_digit? {c : Char} : Numeral.digit? c = some 0 ↔ c = '0' := by
  constructor
  · intro h
    obtain ⟨digit, zero⟩ := digit?_eq_some h
    have lower : 48 ≤ c.toNat := by
      simp only [Char.isDigit, Bool.and_eq_true, decide_eq_true_eq] at digit
      exact digit.1
    have number : c.toNat = 48 := by omega
    rw [← Char.ofNat_toNat c, number]
  · rintro rfl
    rfl

theorem hexValue?_lt {c : Char} {d : Nat} (h : hexValue? c = some d) : d < 16 := by
  have bound {lo hi : Char} (range : lo ≤ c ∧ c ≤ hi) : lo.toNat ≤ c.toNat ∧ c.toNat ≤ hi.toNat :=
    range
  unfold hexValue? at h
  split at h
  · have := bound ‹_›
    have : c.toNat ≤ 57 := this.2
    have := Option.some.inj h
    omega
  · split at h
    · have := bound ‹_›
      have : c.toNat ≤ 70 := this.2
      have := Option.some.inj h
      omega
    · split at h
      · have := bound ‹_›
        have : c.toNat ≤ 102 := this.2
        have := Option.some.inj h
        omega
      · cases h

/-- A decimal number is read just from its numeral, up to where the digits end. -/
theorem decimal_eq_some {high n : Nat} :
    decimal high s = some (n, rest) ↔ ∃ text, s = text ++ rest ∧
      IsNumeral Numeral.digit? 10 text n ∧ n ≤ high ∧ Stops Numeral.digit? rest := by
  constructor
  · obtain ⟨text, rest', ds, rfl, spells, stops⟩ := exists_digits Numeral.digit? s
    obtain ⟨digits_eq, drop_eq⟩ := digits_append spells stops
    intro h
    simp only [decimal, digits_eq, drop_eq] at h
    split at h
    · cases h
    · rename_i accepted
      obtain ⟨rfl, rfl⟩ := Prod.mk.inj (Option.some.inj h)
      obtain ⟨ne_nil, small⟩ := not_or.1 accepted
      exact ⟨text, rfl, ⟨ds, ne_nil, spells, rfl⟩, Nat.le_of_not_lt small, stops⟩
  · rintro ⟨text, rfl, ⟨ds, ne_nil, spells, rfl⟩, small, stops⟩
    obtain ⟨digits_eq, drop_eq⟩ := digits_append spells stops
    simp only [decimal, digits_eq, drop_eq]
    rw [if_neg (not_or.2 ⟨ne_nil, Nat.not_lt.2 small⟩)]

/-- A group is read just from its hexadecimal digits. -/
theorem group_eq_some {g : UInt16} :
    group s = some (g, rest) ↔
      ∃ text, s = text ++ rest ∧ IsGroup text g ∧ Stops hexValue? rest := by
  constructor
  · obtain ⟨text, rest', ds, rfl, spells, stops⟩ := exists_digits hexValue? s
    obtain ⟨digits_eq, drop_eq⟩ := digits_append spells stops
    intro h
    simp only [group, digits_eq, drop_eq] at h
    split at h
    · cases h
    · rename_i accepted
      obtain ⟨rfl, rfl⟩ := Prod.mk.inj (Option.some.inj h)
      obtain ⟨ne_nil, short⟩ := not_or.1 accepted
      have small : ∀ d ∈ ds, d < 16 := by
        intro d hd
        obtain ⟨c, -, hc⟩ := List.mem_map.1 (spells.symm ▸ List.mem_map_of_mem (f := some) hd)
        exact hexValue?_lt hc
      have bound : value 16 ds < 16 ^ 4 := Nat.lt_of_lt_of_le (value_lt small)
        (Nat.pow_le_pow_right (by decide) (Nat.le_of_not_lt short))
      have length : text.length = ds.length := by simpa using congrArg List.length spells
      refine ⟨text, rfl, ⟨⟨ds, ne_nil, spells, ?_⟩, by omega⟩, stops⟩
      exact (Nat.mod_eq_of_lt bound).symm
  · rintro ⟨text, rfl, ⟨⟨ds, ne_nil, spells, value_eq⟩, short⟩, stops⟩
    obtain ⟨digits_eq, drop_eq⟩ := digits_append spells stops
    have length : text.length = ds.length := by simpa using congrArg List.length spells
    simp only [group, digits_eq, drop_eq]
    rw [if_neg (not_or.2 ⟨ne_nil, by omega⟩), value_eq]
    simp

/-- A decimal without superfluous zeros that fits into a byte has at most three digits. -/
theorem length_le_of_plain (plain : ds.head? = some 0 → ds.length ≤ 1) (small : value 10 ds ≤ 255) :
    ds.length ≤ 3 := by
  cases ds with
  | nil => exact Nat.zero_le 3
  | cons d ds =>
    refine Nat.le_of_not_lt fun long => ?_
    rw [List.length_cons] at long plain
    have pos : d ≠ 0 := by
      rintro rfl
      have := plain rfl
      omega
    have place : 10 ^ 3 ≤ 10 ^ ds.length := Nat.pow_le_pow_right (by decide) (by omega)
    have large : 1 * 10 ^ ds.length ≤ d * 10 ^ ds.length :=
      Nat.mul_le_mul_right _ (Nat.pos_of_ne_zero pos)
    have := le_value_cons 10 d ds
    omega

/-- A byte is read just from its decimal digits. -/
theorem byte_eq_some {b : UInt8} :
    byte s = some (b, rest) ↔
      ∃ text, s = text ++ rest ∧ IsByte text b ∧ Stops Numeral.digit? rest := by
  have plain_iff {text : List Char} {ds : List Nat}
      (spells : text.map Numeral.digit? = ds.map some) :
      (text.head? = some '0' → text = ['0']) ↔ ¬(ds.head? = some 0 ∧ 1 < ds.length) := by
    cases text with
    | nil =>
      obtain rfl : ds = [] := by simpa using spells.symm
      simp
    | cons c text =>
      cases ds with
      | nil => cases spells
      | cons d ds =>
        obtain ⟨first, others⟩ := List.cons.inj spells
        have length : text.length = ds.length := by simpa using congrArg List.length others
        have zero : c = '0' ↔ d = 0 := by
          rw [← eq_zero_iff_digit?, first, Option.some.injEq]
        simp only [List.head?_cons, Option.some.injEq, List.cons.injEq, zero, List.length_cons,
          Nat.lt_add_left_iff_pos, ← length, List.length_pos_iff, not_and, not_not]
        exact ⟨fun h z => (h z).2, fun h z => ⟨z, h z⟩⟩
  constructor
  · obtain ⟨text, rest', ds, rfl, spells, stops⟩ := exists_digits Numeral.digit? s
    obtain ⟨digits_eq, drop_eq⟩ := digits_append spells stops
    intro h
    simp only [byte, digits_eq, drop_eq] at h
    split at h
    · cases h
    · rename_i accepted
      obtain ⟨rfl, rfl⟩ := Prod.mk.inj (Option.some.inj h)
      simp only [not_or, Nat.not_lt] at accepted
      obtain ⟨ne_nil, -, small, plain⟩ := accepted
      refine ⟨text, rfl, ⟨⟨ds, ne_nil, spells, ?_⟩, (plain_iff spells).2 plain⟩, stops⟩
      exact (Nat.mod_eq_of_lt (Nat.lt_succ_of_le small)).symm
  · rintro ⟨text, rfl, ⟨⟨ds, ne_nil, spells, value_eq⟩, plain⟩, stops⟩
    obtain ⟨digits_eq, drop_eq⟩ := digits_append spells stops
    have plain := (plain_iff spells).1 plain
    have small : value 10 ds ≤ 255 := value_eq ▸ Nat.le_of_lt_succ b.toNat_lt
    have short : ds.length ≤ 3 :=
      length_le_of_plain (fun zero => Nat.le_of_not_lt fun more => plain ⟨zero, more⟩) small
    simp only [byte, digits_eq, drop_eq]
    rw [if_neg (by simp only [not_or, Nat.not_lt]; exact ⟨ne_nil, short, small, plain⟩), value_eq]
    simp

end Numerals

/-! ## Groups -/

section Groups

variable {s text rest : List Char} {bytes : List UInt8} {gs : List UInt16} {dots : Bool} {n : Nat}

theorem stops_cons {digit? : Char → Option Nat} {c : Char} (h : digit? c = none) :
    Stops digit? (c :: rest) := by
  intro d hd
  rwa [← Option.some.inj hd]

/-- An address of four bytes is read just from its dotted form. -/
theorem dotted_eq_some : dotted s = some (bytes, rest) ↔
    ∃ text, s = text ++ rest ∧ IsDotted text bytes ∧ Stops Numeral.digit? rest := by
  simp only [dotted, Option.bind_eq_bind, Option.bind_eq_some_iff, Option.pure_def,
    Option.some.injEq, Prod.exists, Prod.mk.injEq]
  constructor
  · rintro ⟨a, s₁, ha, _, s₂, dot, b, s₃, hb, _, s₄, dot', c, s₅, hc, _, s₆, dot'', d, s₇, hd, rfl,
      rfl⟩
    obtain ⟨ta, rfl, first, -⟩ := byte_eq_some.1 ha
    obtain rfl := mark_eq_some.1 dot
    obtain ⟨tb, rfl, second, -⟩ := byte_eq_some.1 hb
    obtain rfl := mark_eq_some.1 dot'
    obtain ⟨tc, rfl, third, -⟩ := byte_eq_some.1 hc
    obtain rfl := mark_eq_some.1 dot''
    obtain ⟨td, rfl, fourth, stops⟩ := byte_eq_some.1 hd
    exact ⟨_, by simp, .intro first second third fourth, stops⟩
  · rintro ⟨text, rfl, ⟨first, second, third, fourth⟩, stops⟩
    have dot (t : List Char) : Stops Numeral.digit? ('.' :: t) := stops_cons rfl
    refine ⟨_, _, byte_eq_some.2 ⟨_, List.append_assoc .., first, dot _⟩, (), _, mark_eq_some.2 rfl,
      _, _, byte_eq_some.2 ⟨_, List.append_assoc .., second, dot _⟩, (), _, mark_eq_some.2 rfl,
      _, _, byte_eq_some.2 ⟨_, List.append_assoc .., third, dot _⟩, (), _, mark_eq_some.2 rfl,
      _, _, byte_eq_some.2 ⟨_, rfl, fourth, stops⟩, rfl, rfl⟩

theorem hexValue?_of_digit? {c : Char} {d : Nat} (h : Numeral.digit? c = some d) :
    (hexValue? c).isSome = true := by
  have digit := (digit?_eq_some h).1
  simp only [Char.isDigit, Bool.and_eq_true, decide_eq_true_eq] at digit
  unfold hexValue?
  rw [if_pos ⟨digit.1, digit.2⟩]
  rfl

theorem IsNumeral.isSome {digit? : Char → Option Nat} {base : Nat}
    (h : IsNumeral digit? base text n) : ∀ c ∈ text, (digit? c).isSome = true := by
  obtain ⟨ds, -, spells, -⟩ := h
  exact isSome_of_spells spells

/-- A group is not taken for a byte, unless a dot follows. -/
theorem dotted_group {g : UInt16} (group : IsGroup text g) (stops : Stops hexValue? rest)
    (no_dot : ∀ t, rest ≠ '.' :: t) : dotted (text ++ rest) = none := by
  refine Option.eq_none_iff_forall_ne_some.2 fun ⟨bytes, behind⟩ read => ?_
  obtain ⟨_, split, ⟨first, -, -, -⟩, -⟩ := dotted_eq_some.1 read
  have hex : ∀ c ∈ _, (hexValue? c).isSome = true := fun c hc =>
    have ⟨_, hd⟩ := Option.isSome_iff_exists.1 (first.numeral.isSome c hc)
    hexValue?_of_digit? hd
  -- Both numerals end where the hexadecimal digits do, and there the dot stands.
  have same := dropWhile_run group.numeral.isSome stops.isSome
  rw [split, List.append_assoc, List.cons_append,
    dropWhile_run hex (stops_cons rfl : Stops hexValue? _).isSome] at same
  exact no_dot _ same.symm

/-- What stands in front of the groups: a colon, unless they are the first ones. -/
def lead (first : Bool) (s : List Char) : List Char := if first then s else ':' :: s

theorem lead_eq_some {first : Bool} {body : List Char} :
    (if first then some s else (mark ':' s).map (·.2)) = some body ↔ s = lead first body := by
  cases first with
  | true => simp [lead]
  | false =>
    simp only [Bool.false_eq_true, if_false, Option.map_eq_some_iff, Prod.exists, lead]
    constructor
    · rintro ⟨_, _, colon, rfl⟩
      exact mark_eq_some.1 colon
    · intro colon
      exact ⟨(), body, mark_eq_some.2 colon, rfl⟩

theorem toNat_group (a b : UInt8) :
    (a.toUInt16 <<< 8 ||| b.toUInt16).toNat = 256 * a.toNat + b.toNat := by
  have ha := a.toNat_lt
  have hb := b.toNat_lt
  simp only [UInt16.toNat_or, UInt16.toNat_shiftLeft, UInt8.toNat_toUInt16]
  show a.toNat <<< 8 % 65536 ||| b.toNat = _
  rw [Nat.mod_eq_of_lt (by rw [Nat.shiftLeft_eq]; omega),
    ← Nat.shiftLeft_add_eq_or_of_lt (by omega), Nat.shiftLeft_eq]
  omega

/-- What is taken off are groups, unless nothing is. -/
theorem groups_sound {first : Bool} (h : groups n first s = ((gs, dots), rest)) :
    gs.length ≤ n ∧ ((gs = [] ∧ dots = false ∧ rest = s) ∨
      ∃ text, s = lead first (text ++ rest) ∧ IsGroups dots text gs) := by
  induction n generalizing first s gs with
  | zero =>
    obtain ⟨same, rfl⟩ := Prod.mk.inj h
    obtain ⟨rfl, rfl⟩ := Prod.mk.inj same
    exact ⟨Nat.le_refl 0, .inl ⟨rfl, rfl, rfl⟩⟩
  | succ n ih =>
    have nothing (h : ((([] : List UInt16), false), s) = ((gs, dots), rest)) :
        gs.length ≤ n + 1 ∧ ((gs = [] ∧ dots = false ∧ rest = s) ∨
          ∃ text, s = lead first (text ++ rest) ∧ IsGroups dots text gs) := by
      obtain ⟨same, rfl⟩ := Prod.mk.inj h
      obtain ⟨rfl, rfl⟩ := Prod.mk.inj same
      exact ⟨Nat.zero_le _, .inl ⟨rfl, rfl, rfl⟩⟩
    unfold groups at h
    split at h
    · exact nothing h
    · rename_i body starts
      obtain rfl := lead_eq_some.1 starts
      split at h
      · rename_i bytes rest' read
        obtain ⟨same, rfl⟩ := Prod.mk.inj h
        obtain ⟨rfl, rfl⟩ := Prod.mk.inj same
        split at read
        · rename_i pos
          obtain ⟨text, rfl, dotted, -⟩ := dotted_eq_some.1 read
          obtain ⟨first, second, third, fourth⟩ := dotted
          refine ⟨Nat.succ_le_succ pos, .inr ⟨_, rfl, ?_⟩⟩
          exact .dotted ⟨first, second, third, fourth⟩ (toNat_group _ _) (toNat_group _ _)
        · cases read
      · split at h
        · exact nothing h
        · rename_i g rest' read
          obtain ⟨text, rfl, group, -⟩ := group_eq_some.1 read
          obtain ⟨same, rfl⟩ := Prod.mk.inj h
          obtain ⟨rfl, rfl⟩ := Prod.mk.inj same
          obtain ⟨short, others⟩ := ih (Eq.refl (groups n false rest'))
          refine ⟨Nat.succ_le_succ short, .inr ?_⟩
          rcases others with ⟨none, plain, rest_eq⟩ | ⟨text', split, groups⟩
          · rw [none, plain, rest_eq]
            exact ⟨text, rfl, .last group⟩
          · refine ⟨text ++ ':' :: text', ?_, .cons group groups⟩
            conv =>
              lhs
              rw [split]
            simp [lead]

/-- What may follow groups: the end of the brackets, a scope, or two colons. -/
inductive Ends : List Char → Prop
  | bracket {t : List Char} : Ends (']' :: t)
  | scope {t : List Char} : Ends ('%' :: t)
  | colons {t : List Char} : Ends (':' :: ':' :: t)

theorem Ends.stops (h : Ends rest) :
    Stops hexValue? rest ∧ Stops Numeral.digit? rest ∧ ∀ t, rest ≠ '.' :: t := by
  cases h with
  | bracket => exact ⟨stops_cons rfl, stops_cons rfl, by simp⟩
  | scope => exact ⟨stops_cons rfl, stops_cons rfl, by simp⟩
  | colons => exact ⟨stops_cons rfl, stops_cons rfl, by simp⟩

/-- No group starts here. -/
theorem none_of_stops (stops : Stops hexValue? s) (stops' : Stops Numeral.digit? s) :
    group s = none ∧ dotted s = none := by
  have no_digits {digit? : Char → Option Nat} (stops : Stops digit? s) : digits digit? s = [] :=
    (@digits_append digit? [] s [] rfl stops).1
  refine ⟨by simp [group, no_digits stops], ?_⟩
  have no_byte : byte s = none := by simp [byte, no_digits stops']
  rw [dotted, no_byte]
  rfl

theorem groups_of_stops (stops : Stops hexValue? s) (stops' : Stops Numeral.digit? s) (n : Nat) :
    groups n true s = (([], false), s) := by
  obtain ⟨no_group, no_dotted⟩ := none_of_stops stops stops'
  cases n with
  | zero => rfl
  | succ n => simp [groups, no_dotted, no_group]

theorem Ends.groups (h : Ends rest) (n : Nat) : groups n false rest = (([], false), rest) := by
  cases n with
  | zero => rfl
  | succ n =>
    cases h with
    | bracket => rfl
    | scope => rfl
    | @colons t =>
      obtain ⟨no_group, no_dotted⟩ :=
        none_of_stops (s := ':' :: t) (stops_cons rfl) (stops_cons rfl)
      simp [Address.groups, mark, no_dotted, no_group]

/-- A group is taken off, and reading goes on behind it. -/
theorem groups_group {g : UInt16} (group : IsGroup text g) (stops : Stops hexValue? rest)
    (no_dot : ∀ t, rest ≠ '.' :: t) (first : Bool) :
    groups (n + 1) first (lead first (text ++ rest)) =
      ((g :: (groups n false rest).1.1, (groups n false rest).1.2), (groups n false rest).2) := by
  have starts := lead_eq_some.2 (Eq.refl (lead first (text ++ rest)))
  have read : Address.group (text ++ rest) = some (g, rest) :=
    group_eq_some.2 ⟨text, rfl, group, stops⟩
  rw [groups, starts]
  simp only [dotted_group group stops no_dot, ite_self, read]

/-- Written groups are read back. -/
theorem groups_written (h : IsGroups dots text gs) (few : gs.length ≤ n) (ends : Ends rest)
    (first : Bool) : groups n first (lead first (text ++ rest)) = ((gs, dots), rest) := by
  obtain ⟨stops, stops', no_dot⟩ := ends.stops
  induction h generalizing n first with
  | last group =>
    obtain ⟨n, rfl⟩ : ∃ m, n = m + 1 := Nat.exists_eq_add_one.2 few
    rw [groups_group group stops no_dot, ends.groups]
  | @dotted s a b c d g h bytes upper lower =>
    obtain ⟨n, rfl⟩ : ∃ m, n = m + 2 := ⟨n - 2, by simp only [List.length_cons] at few; omega⟩
    have starts := lead_eq_some.2 (Eq.refl (lead first (s ++ rest)))
    have read : dotted (s ++ rest) = some ([a, b, c, d], rest) :=
      dotted_eq_some.2 ⟨s, rfl, bytes, stops'⟩
    have same : groupsOf [a, b, c, d] = [g, h] := by
      have upper : a.toUInt16 <<< 8 ||| b.toUInt16 = g :=
        UInt16.toNat_inj.1 ((toNat_group a b).trans upper.symm)
      have lower : c.toUInt16 <<< 8 ||| d.toUInt16 = h :=
        UInt16.toNat_inj.1 ((toNat_group c d).trans lower.symm)
      simp [groupsOf, upper, lower]
    rw [groups, starts]
    simp only [Nat.zero_lt_succ, if_true, read, same]
  | @cons dots s t g gs group _ ih =>
    obtain ⟨n, rfl⟩ : ∃ m, n = m + 1 := ⟨n - 1, by simp only [List.length_cons] at few; omega⟩
    have others := ih (Nat.le_of_succ_le_succ few) false
    rw [List.append_assoc, List.cons_append,
      groups_group group (stops_cons rfl) (fun _ => by simp) first]
    rw [lead, if_neg Bool.false_ne_true] at others
    rw [others]

end Groups

/-! ## Hosts -/

section Hosts

variable {s text rest : List Char} {gs : List UInt16} {n : UInt32} {h : HostAddress}

theorem IsGroups?.of_sound {dots : Bool} {n : Nat}
    (read : groups n true s = ((gs, dots), rest)) :
    gs.length ≤ n ∧ ∃ text, s = text ++ rest ∧ IsGroups? dots text gs := by
  obtain ⟨short, ⟨rfl, rfl, rfl⟩ | ⟨text, rfl, groups⟩⟩ := groups_sound read
  · exact ⟨short, [], rfl, .inl ⟨rfl, rfl, rfl⟩⟩
  · exact ⟨short, text, rfl, .inr groups⟩

theorem IsGroups?.written {dots : Bool} {n : Nat} (groups : IsGroups? dots text gs)
    (few : gs.length ≤ n) (ends : Ends rest) :
    Address.groups n true (text ++ rest) = ((gs, dots), rest) := by
  rcases groups with ⟨rfl, rfl, rfl⟩ | groups
  · exact groups_of_stops ends.stops.1 ends.stops.2.1 n
  · exact groups_written groups few ends true

/-- An address that is read was written as eight groups, or with a gap. -/
theorem eightGroups_sound (read : eightGroups s = some (gs, rest)) :
    ∃ text, s = text ++ rest ∧ IsEightGroups text gs := by
  rcases front_eq : groups 8 true s with ⟨⟨front, dots⟩, s₁⟩
  obtain ⟨short, text, rfl, groups⟩ := IsGroups?.of_sound front_eq
  simp only [eightGroups, front_eq] at read
  split at read
  · rename_i eight
    obtain ⟨rfl, rfl⟩ := Prod.mk.inj (Option.some.inj read)
    rcases groups with ⟨-, -, rfl⟩ | groups
    · cases eight
    · exact ⟨text, rfl, .all groups eight⟩
  · split at read
    · cases read
    · rename_i few plain
      obtain rfl := Bool.eq_false_iff.2 plain
      simp only [Option.bind_eq_bind, Option.bind_eq_some_iff, Option.pure_def, Prod.exists] at read
      obtain ⟨_, s₂, colon, _, s₃, colon', read⟩ := read
      obtain rfl := mark_eq_some.1 colon
      obtain rfl := mark_eq_some.1 colon'
      rcases back_eq : Address.groups (7 - front.length) true s₃ with ⟨⟨back, dots⟩, s₄⟩
      obtain ⟨short', text', rfl, groups'⟩ := IsGroups?.of_sound back_eq
      simp only [back_eq] at read
      obtain ⟨rfl, rfl⟩ := Prod.mk.inj (Option.some.inj read)
      refine ⟨text ++ ':' :: ':' :: text', by simp, ?_⟩
      exact .some groups groups' (by omega) (by omega)

/-- Whatever is written for eight groups is read back. -/
theorem eightGroups_written (groups : IsEightGroups text gs) (ends : Ends rest) :
    eightGroups (text ++ rest) = some (gs, rest) := by
  cases groups with
  | all groups eight =>
    have read := IsGroups?.written (.inr groups) (Nat.le_of_eq eight) ends
    simp only [eightGroups, read]
    rw [if_pos eight]
    rfl
  | @some dots s t fs bs zeros front back pos eight =>
    have read := front.written (n := 8) (by omega) (.colons (t := t ++ rest))
    have read' := back.written (n := 7 - fs.length) (by omega) ends
    have few : ¬fs.length = 8 := by omega
    have left : 8 - fs.length - bs.length = zeros := by omega
    simp only [eightGroups, List.append_assoc, List.cons_append, read, if_neg few,
      Bool.false_eq_true, if_false, mark, if_true]
    simp [read', left]

theorem scope_sound (read : scope s = (n, rest)) : ∃ text, s = text ++ rest ∧ IsScope text n := by
  unfold scope at read
  split at read
  · rename_i digits
    split at read
    · rename_i m rest' number
      obtain ⟨rfl, rfl⟩ := Prod.mk.inj read
      obtain ⟨text, rfl, numeral, small, -⟩ := decimal_eq_some.1 number
      refine ⟨'%' :: text, rfl, .given ?_⟩
      have bound : m < 2 ^ 32 := Nat.lt_of_le_of_lt small (by decide)
      show IsNumeral Numeral.digit? 10 text (m % 2 ^ 32)
      rwa [Nat.mod_eq_of_lt bound]
    · obtain ⟨rfl, rfl⟩ := Prod.mk.inj read
      exact ⟨[], rfl, .absent⟩
  · obtain ⟨rfl, rfl⟩ := Prod.mk.inj read
    exact ⟨[], rfl, .absent⟩

theorem scope_written (written : IsScope text n) (t : List Char) :
    scope (text ++ ']' :: t) = (n, ']' :: t) := by
  cases written with
  | absent => rfl
  | @given s n numeral =>
    have small : n.toNat ≤ UInt32.size - 1 := Nat.le_of_lt_succ n.toNat_lt
    have number : decimal (UInt32.size - 1) (s ++ ']' :: t) = some (n.toNat, ']' :: t) :=
      decimal_eq_some.2 ⟨s, rfl, numeral, small, stops_cons rfl⟩
    simp only [scope, List.cons_append, number]
    rw [Nat.toUInt32_eq, UInt32.ofNat_toNat]

/-- A host that is read was written as one. -/
theorem host_sound (read : host s = some (h, rest)) : ∃ text, s = text ++ rest ∧ IsHost text h := by
  unfold host at read
  split at read
  · rename_i bytes rest' dotted
    obtain ⟨rfl, rfl⟩ := Prod.mk.inj (Option.some.inj read)
    obtain ⟨text, rfl, bytes, -⟩ := dotted_eq_some.1 dotted
    exact ⟨text, rfl, .short bytes⟩
  · simp only [bracketed, Option.bind_eq_bind, Option.bind_eq_some_iff, Option.pure_def,
      Prod.exists, Option.some.injEq, Prod.mk.injEq] at read
    obtain ⟨_, s₁, opens, gs, s₂, eight, _, s₄, closes, rfl, rfl⟩ := read
    obtain rfl := mark_eq_some.1 opens
    obtain ⟨text, rfl, groups⟩ := eightGroups_sound eight
    rcases scope_eq : scope s₂ with ⟨n, s₃⟩
    obtain ⟨text', rfl, scope⟩ := scope_sound scope_eq
    rw [scope_eq] at closes
    obtain rfl := mark_eq_some.1 closes
    exact ⟨'[' :: (text ++ text' ++ [']']), by simp, .long groups scope⟩

/-- A host is read back in front of a colon. -/
theorem host_written (written : IsHost text h) (t : List Char) :
    host (text ++ ':' :: t) = some (h, ':' :: t) := by
  cases written with
  | short dotted =>
    have colon : Stops Numeral.digit? (':' :: t) := stops_cons rfl
    have read := dotted_eq_some.2 ⟨text, rfl, dotted, colon⟩
    rw [host, read]
  | @long s u gs n groups scope =>
    have bracket : dotted ('[' :: (s ++ (u ++ ']' :: ':' :: t))) = none :=
      (none_of_stops (stops_cons rfl) (stops_cons rfl)).2
    have ends : Ends (u ++ ']' :: ':' :: t) := by
      cases scope with
      | absent => exact .bracket
      | given => exact .scope
    have read := eightGroups_written groups ends
    have read' := scope_written scope (':' :: t)
    simp [host, bracket, bracketed, mark, read, read']

end Hosts

/-- A text is read as an address just when it is a host and a port with a colon in between. -/
theorem ofChars?_eq_some {s : List Char} {a : SocketAddress} :
    ofChars? s = some a ↔ ∃ text port, s = text ++ ':' :: port ∧ IsHost text a.host ∧
      IsNumeral Numeral.digit? 10 port a.port.toNat := by
  simp only [ofChars?, Option.bind_eq_bind, Option.bind_eq_some_iff, Option.pure_def, Prod.exists]
  constructor
  · rintro ⟨h, s₁, front, _, s₂, colon, n, s₃, number, made⟩
    obtain ⟨text, rfl, written⟩ := host_sound front
    obtain rfl := mark_eq_some.1 colon
    obtain ⟨port, rfl, numeral, small, -⟩ := decimal_eq_some.1 number
    split at made
    · rename_i ends
      subst ends
      obtain rfl := Option.some.inj made
      refine ⟨text, port, by rw [List.append_nil], written, ?_⟩
      have bound : n < 2 ^ 16 := Nat.lt_of_le_of_lt small (by decide)
      show IsNumeral Numeral.digit? 10 port (n % 2 ^ 16)
      rwa [Nat.mod_eq_of_lt bound]
    · cases made
  · rintro ⟨text, port, rfl, written, numeral⟩
    have small : a.port.toNat ≤ UInt16.size - 1 := Nat.le_of_lt_succ a.port.toNat_lt
    have number : decimal (UInt16.size - 1) port = some (a.port.toNat, []) :=
      decimal_eq_some.2 ⟨port, by simp, numeral, small, nofun⟩
    exact ⟨_, _, host_written written port, (), port, mark_eq_some.2 rfl, _, _, number, by simp⟩

end Tutoring.Address
