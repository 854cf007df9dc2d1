import CircleStdlib.NetSockets
import CircleStdlib.Numerals

/-!
The texts that `Connect` and `Bind` take for a port. `strtoul` skips white space and takes a
sign, and a negative number comes back modulo `ULONG_MAX + 1`, so besides the numbers from 1 to
65535 some very large negative ones name a port.
-/

namespace CircleStdlib.PortNumbers

open CText Numerals NetSockets

def Names (ulongMax : Nat) (sign digits : List UInt8) (port : UInt16) : Prop :=
  port ≠ 0 ∧
    if sign = [45] then numeral 10 digits + port.toNat = ulongMax + 1
    else numeral 10 digits = port.toNat

theorem ofNat_port (number : Nat) (small : number ≤ 0xFFFF) :
    (UInt16.ofNat number).toNat = number := by
  rw [UInt16.toNat_ofNat']
  omega

theorem port_nonzero (port : UInt16) : port ≠ 0 ↔ port.toNat ≠ 0 := by
  rw [ne_eq, ← UInt16.toNat_inj]
  rfl

/-- A text names the port that `strtoul` reads from it. -/
theorem names_value (ulongMax : Nat) (large : 0xFFFF < ulongMax)
    (text blanks sign digits : List UInt8) (spells : Spells text blanks sign digits)
    (port : UInt16) (nonzero : port ≠ 0) :
    Names ulongMax sign digits port ↔ (strtoul ulongMax 10 text).1 = port.toNat := by
  have value := strtoul_value ulongMax text blanks sign digits spells
  have bounded := UInt16.toNat_lt port
  unfold Names
  rw [and_iff_right nonzero]
  rw [port_nonzero] at nonzero
  by_cases minus : sign = [45]
  · rw [if_pos minus]
    rw [if_pos minus] at value
    constructor
    · intro named
      rw [if_neg (by omega), Nat.mod_eq_of_lt (by omega)] at value
      omega
    · intro same
      by_cases long : numeral 10 digits > ulongMax
      · rw [if_pos long] at value
        omega
      · rw [if_neg long] at value
        -- a negative number that is not zero comes back from the other end
        by_cases zero : numeral 10 digits = 0
        · rw [zero, Nat.sub_zero, Nat.mod_self] at value
          omega
        · rw [Nat.mod_eq_of_lt (by omega)] at value
          omega
  · rw [if_neg minus]
    rw [if_neg minus] at value
    split at value <;> omega

theorem portNumber_iff (ulongMax : Nat) (large : 0xFFFF < ulongMax) (text : List UInt8)
    (port : UInt16) :
    portNumber ulongMax text = some port ↔ ∃ blanks sign digits,
      Spells (cstr text) blanks sign digits ∧ Names ulongMax sign digits port := by
  have bounded := UInt16.toNat_lt port
  constructor
  · intro named
    simp only [portNumber, Option.ite_none_left_eq_some, Option.some.injEq, not_or] at named
    rcases named with ⟨⟨ended, nonzero, small⟩, rfl⟩
    rw [not_not] at ended
    rcases (strtoul_spells ulongMax (cstr text)).mp ended with
      empty | ⟨blanks, sign, digits, spells⟩
    · rw [empty] at nonzero
      exact absurd rfl nonzero
    · have same := ofNat_port (strtoul ulongMax 10 (cstr text)).1 (by omega)
      refine ⟨blanks, sign, digits, spells, ?_⟩
      refine (names_value ulongMax large _ blanks sign digits spells _ ?_).mpr same.symm
      rw [port_nonzero, same]
      exact nonzero
  · rintro ⟨blanks, sign, digits, spells, names⟩
    have ended := (strtoul_spells ulongMax (cstr text)).mpr (.inr ⟨blanks, sign, digits, spells⟩)
    have same := (names_value ulongMax large _ blanks sign digits spells port names.1).mp names
    have nonzero := (port_nonzero port).mp names.1
    have accepted : ¬ ((strtoul ulongMax 10 (cstr text)).2 ≠ [] ∨
        (strtoul ulongMax 10 (cstr text)).1 = 0 ∨
          (strtoul ulongMax 10 (cstr text)).1 > 0xFFFF) := by
      rw [same]
      simp only [ended, ne_eq, not_true_eq_false, false_or]
      omega
    simp only [portNumber]
    rw [if_neg accepted, same, UInt16.ofNat_toNat]

/-- `Connect` and `Bind` accept the same texts, and come through with one of them exactly when
the network takes the port that it names: for a text without a minus its number, from 1 to
65535, and for one with a minus what is left of its number to `ULONG_MAX + 1`. -/
theorem ports_reached (ulongMax : Nat) (large : 0xFFFF < ulongMax) (pPort : List UInt8)
    (resolved listening : Bool) (network : UInt16 → Bool) :
    (connect ulongMax pPort resolved network = .ok ↔ resolved = true ∧
      ∃ blanks sign digits port, Spells (cstr pPort) blanks sign digits ∧
        Names ulongMax sign digits port ∧ network port = true) ∧
    (NetSockets.bind ulongMax pPort network listening = .ok ↔ listening = true ∧
      ∃ blanks sign digits port, Spells (cstr pPort) blanks sign digits ∧
        Names ulongMax sign digits port ∧ network port = true) := by
  have reached : (∃ blanks sign digits port, Spells (cstr pPort) blanks sign digits ∧
      Names ulongMax sign digits port ∧ network port = true) ↔
        ∃ port, portNumber ulongMax pPort = some port ∧ network port = true := by
    constructor
    · rintro ⟨blanks, sign, digits, port, spells, names, taken⟩
      exact ⟨port, (portNumber_iff ulongMax large pPort port).mpr
        ⟨blanks, sign, digits, spells, names⟩, taken⟩
    · rintro ⟨port, named, taken⟩
      rcases (portNumber_iff ulongMax large pPort port).mp named with
        ⟨blanks, sign, digits, spells, names⟩
      exact ⟨blanks, sign, digits, port, spells, names, taken⟩
  rw [reached]
  unfold connect NetSockets.bind
  cases portNumber ulongMax pPort with
  | none => simp
  | some port => cases resolved <;> cases listening <;> cases network port <;> simp_all

/-- `-18446744073709551536` is the port 80 where `unsigned long` has 64 bits. -/
theorem negative_port :
    NetSockets.bind (2 ^ 64 - 1) (ascii " -18446744073709551536") (fun port => port = 80) true =
      .ok := by
  refine (ports_reached (2 ^ 64 - 1) (by decide) (ascii " -18446744073709551536") true true
    (fun port => port = 80)).2.mpr ⟨rfl, [32], [45], ascii "18446744073709551536", 80, ?_, ?_, rfl⟩
  · have blank : ([32] : List UInt8).all isspace = true := by decide
    have decimal : (ascii "18446744073709551536").all (digitValue · < 10) = true := by decide
    exact ⟨by decide, List.all_eq_true.mp blank, by decide, by decide,
      fun digit mem => of_decide_eq_true (List.all_eq_true.mp decimal digit mem)⟩
  · exact ⟨by decide, by decide⟩

end CircleStdlib.PortNumbers
