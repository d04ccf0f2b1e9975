import Scribe.Proofs.Source.Fits
import Scribe.Session

/-!
# What is an address

Reading an address accepts exactly what `Address.Written` says, a host alone or a host and a port
after a colon that is the last one, and refuses all else (`Address.parse_accepts`).  The two checks
that can refuse a text with a colon, of its port and of its host, come in an order, but an address is
one that passes both, so the order shows in the message only.

The port is read by `readNumeral`, which gives up as soon as the bound is passed.  That is no earlier
than it has to be, because more digits never make a number smaller (`le_ofDigitChars`).
-/

namespace Scribe.Text

/-! ## Bounded numbers -/

/-- A text writes a number: its decimal digits, of which there may be more than it needs, and maybe a
plus sign in front. -/
def WritesNumber (s : List Char) (n : Nat) : Prop :=
  ∃ sign digits, s = sign ++ digits ∧ (sign = [] ∨ sign = ['+']) ∧ digits ≠ [] ∧
    (∀ c ∈ digits, c.isDigit) ∧ Nat.ofDigitChars 10 digits 0 = n

theorem le_ofDigitChars (digits : List Char) (n : Nat) : n ≤ Nat.ofDigitChars 10 digits n := by
  rw [Nat.ofDigitChars_eq_ofDigitChars_zero]
  have hpow : 1 ≤ 10 ^ digits.length := Nat.one_le_pow _ _ (by omega)
  calc
    n ≤ 10 ^ digits.length * n := Nat.le_mul_of_pos_left n hpow
    _ ≤ _ := Nat.le_add_right _ _

theorem readDigits_eq_ok_iff {bound n m : Nat} (hn : n ≤ bound) (digits : List Char) :
    readDigits bound n digits = .ok m ↔
      (∀ c ∈ digits, c.isDigit) ∧ Nat.ofDigitChars 10 digits n = m ∧ m ≤ bound := by
  induction digits generalizing n with
  | nil =>
    simp only [readDigits, Except.ok.injEq, Nat.ofDigitChars_nil]
    constructor
    · rintro rfl
      exact ⟨by simp, rfl, hn⟩
    · exact fun h => h.2.1
  | cons c rest ih =>
    rw [readDigits, List.forall_mem_cons, Nat.ofDigitChars_cons]
    cases hc : c.isDigit with
    | false => simp
    | true =>
      have hnext : n * 10 + digitValue c = 10 * n + (c.toNat - '0'.toNat) := by
        rw [digitValue, Nat.mul_comm]
      rw [if_neg (by simp), hnext]
      dsimp only
      split
      · rename_i hlarge
        constructor
        · intro h
          simp at h
        · rintro ⟨-, rfl, hm⟩
          have hle := le_ofDigitChars rest (10 * n + (c.toNat - '0'.toNat))
          omega
      · rename_i hsmall
        rw [ih (Nat.le_of_not_lt hsmall)]
        simp

theorem readNumeral_plus {bound : Nat} {digits : List Char} (h : digits ≠ []) :
    readNumeral bound ('+' :: digits) = readDigits bound 0 digits := by
  obtain ⟨c, rest, rfl⟩ := List.exists_cons_of_ne_nil h
  rfl

theorem readNumeral_of_isDigit {bound : Nat} {c : Char} {rest : List Char} (h : c.isDigit) :
    readNumeral bound (c :: rest) = readDigits bound 0 (c :: rest) := by
  have hplus : c ≠ '+' := by
    rintro rfl
    simp at h
  unfold readNumeral
  split <;> simp_all

/-- **A number is read exactly when it is written and within the bound.** -/
theorem readNumeral_eq_ok_iff {bound n : Nat} {s : List Char} :
    readNumeral bound s = .ok n ↔ WritesNumber s n ∧ n ≤ bound := by
  constructor
  · intro h
    unfold readNumeral at h
    split at h
    · simp at h
    · simp at h
    · rename_i digits hne
      obtain ⟨hdigits, hvalue, hbound⟩ := (readDigits_eq_ok_iff (Nat.zero_le _) _).1 h
      exact ⟨⟨['+'], digits, rfl, .inr rfl, by simpa using hne, hdigits, hvalue⟩, hbound⟩
    · rename_i hne _ _
      obtain ⟨hdigits, hvalue, hbound⟩ := (readDigits_eq_ok_iff (Nat.zero_le _) _).1 h
      exact ⟨⟨[], s, rfl, .inl rfl, by simpa using hne, hdigits, hvalue⟩, hbound⟩
  · rintro ⟨⟨sign, digits, rfl, hsign, hne, hdigits, hvalue⟩, hbound⟩
    have hread := (readDigits_eq_ok_iff (Nat.zero_le _) _).2 ⟨hdigits, hvalue, hbound⟩
    rcases hsign with rfl | rfl
    · obtain ⟨c, rest, rfl⟩ := List.exists_cons_of_ne_nil hne
      rw [List.nil_append, readNumeral_of_isDigit (hdigits c List.mem_cons_self), hread]
    · rw [List.singleton_append, readNumeral_plus hne, hread]

theorem writesNumber_toString (n : Nat) : WritesNumber (toString n).toList n := by
  rw [Nat.toString_eq_repr, Nat.toList_repr]
  refine ⟨[], Nat.toDigits 10 n, rfl, .inl rfl, Nat.toDigits_ne_nil, ?_, Nat.ofDigitChars_ten_toDigits⟩
  intro c hc
  exact Nat.isDigit_of_mem_toDigits (by omega) (by omega) hc

/-- The text of a number ends in a digit. -/
theorem WritesNumber.isDigit_getLast {s : List Char} {n : Nat} (h : WritesNumber s n) :
    ∃ c, s.getLast? = some c ∧ c.isDigit := by
  obtain ⟨sign, digits, rfl, -, hne, hdigits, -⟩ := h
  refine ⟨digits.getLast hne, ?_, hdigits _ (List.getLast_mem hne)⟩
  rw [List.getLast?_append, List.getLast?_eq_some_getLast hne, Option.some_or]

theorem WritesNumber.colon_not_mem {s : List Char} {n : Nat} (h : WritesNumber s n) : ':' ∉ s := by
  obtain ⟨sign, digits, rfl, hsign, -, hdigits, -⟩ := h
  intro hmem
  rcases List.mem_append.1 hmem with hmem | hmem
  · rcases hsign with rfl | rfl <;> simp at hmem
  · exact absurd (hdigits _ hmem) (by decide)

end Scribe.Text

namespace Scribe.Schema

open Scribe.Source Scribe.Text

/-! ## The last colon -/

theorem splitLastColon_eq_none_iff {s : List Char} : splitLastColon s = none ↔ ':' ∉ s := by
  induction s with
  | nil => simp [splitLastColon]
  | cons c rest ih =>
    rw [splitLastColon, List.mem_cons, not_or, ← ih]
    cases hrest : splitLastColon rest with
    | some halves => simp
    | none => by_cases hc : c = ':' <;> simp [hc, eq_comm]

/-- A text is split at a colon after which there is no other. -/
theorem splitLastColon_eq_some_iff {s before after : List Char} :
    splitLastColon s = some (before, after) ↔ s = before ++ ':' :: after ∧ ':' ∉ after := by
  constructor
  · intro h
    induction s generalizing before with
    | nil => simp [splitLastColon] at h
    | cons c rest ih =>
      rw [splitLastColon] at h
      split at h
      · rename_i b a hrest
        obtain ⟨rfl, rfl⟩ : c :: b = before ∧ a = after := by simpa using h
        obtain ⟨rfl, hafter⟩ := ih hrest
        exact ⟨rfl, hafter⟩
      · rename_i hnone
        split at h
        · rename_i hc
          obtain ⟨rfl, rfl⟩ : [] = before ∧ rest = after := by simpa using h
          exact ⟨by rw [hc, List.nil_append], splitLastColon_eq_none_iff.1 hnone⟩
        · simp at h
  · rintro ⟨rfl, hafter⟩
    induction before with
    | nil => rw [List.nil_append, splitLastColon, splitLastColon_eq_none_iff.2 hafter]; rfl
    | cons c before ih => rw [List.cons_append, splitLastColon, ih]

/-! ## Addresses -/

namespace Address

/-- What a text without blanks around it says about where a database listens: a host without a colon,
which listens at port 3306, or a host and a port of 16 bits after a colon that is the last. -/
inductive Written : List Char → Address → Prop
  | host {host : List Char} (hne : host ≠ []) (hcolon : ':' ∉ host) :
      Written host ⟨String.ofList host, 3306⟩
  | hostPort {host port : List Char} {p : Nat} (hne : host ≠ []) (hcolon : ':' ∉ port)
      (hport : WritesNumber port p) (hp : p ≤ 65535) :
      Written (host ++ ':' :: port) ⟨String.ofList host, p⟩

theorem ofTrimmed_eq_ok_iff {a : List Char} {x : Address} : ofTrimmed a = .ok x ↔ Written a x := by
  constructor
  · intro h
    rw [ofTrimmed] at h
    split at h
    · simp at h
    rename_i hne
    split at h
    · rename_i hnone
      obtain rfl := Except.ok.inj h
      exact .host hne (splitLastColon_eq_none_iff.1 hnone)
    · rename_i host port hsplit
      obtain ⟨rfl, hcolon⟩ := splitLastColon_eq_some_iff.1 hsplit
      split at h
      · simp at h
      rename_i p hread
      split at h
      · simp at h
      rename_i hhost
      obtain rfl := Except.ok.inj h
      obtain ⟨hport, hp⟩ := readNumeral_eq_ok_iff.1 hread
      exact .hostPort hhost hcolon hport hp
  · intro h
    cases h with
    | host hne hcolon =>
      rw [ofTrimmed, if_neg hne, splitLastColon_eq_none_iff.2 hcolon]
      rfl
    | @hostPort host port p hne hcolon hport hp =>
      have hread : readNumeral maxPort port = .ok p := readNumeral_eq_ok_iff.2 ⟨hport, hp⟩
      rw [ofTrimmed, if_neg (by simp), splitLastColon_eq_some_iff.2 ⟨rfl, hcolon⟩]
      dsimp only
      rw [hread]
      dsimp only
      rw [if_neg hne]

theorem trim_hostPort {host port : List Char} {p : Nat} (hne : host ≠ [])
    (hhost : ∀ c ∈ host.head?, isBlank c = false) (hport : WritesNumber port p) :
    trim (host ++ ':' :: port) = host ++ ':' :: port := by
  obtain ⟨c, rest, rfl⟩ := List.exists_cons_of_ne_nil hne
  have hc : isBlank c = false := hhost c rfl
  obtain ⟨d, hlast, hd⟩ := hport.isDigit_getLast
  have hend : trimEnd (c :: rest ++ ':' :: port) = c :: rest ++ ':' :: port := by
    apply trimEnd_eq_self
    intro e he
    rw [List.getLast?_append, List.getLast?_cons, hlast] at he
    obtain rfl : d = e := by simpa using he
    exact isBlank_of_continuesNumber (continuesNumber_of_isDigit hd)
  rw [List.cons_append, trim_cons hc, ← trimEnd_cons hc]
  exact hend

/-- What is no address is refused when a connection is opened. -/
theorem step_connect_of_parse {text : String} {e : AddressError} (h : parse text = .error e)
    (network : Network) (s : Session) (user password database : String) :
    (s.step network (.connect ⟨text, user, password, database⟩)).1 =
      .failed (.connection e.message) := by
  have hconnect : network.connect ⟨text, user, password, database⟩ = .error (.address e) := by
    rw [Network.connect, Login.options, h]
    rfl
  show (s.act network (.connect ⟨text, user, password, database⟩)).1 = _
  rw [Session.act, hconnect]
  rfl

/-- **The texts that are addresses.**  All others are refused with a connection error, and an address
that was put together of a host and a port gives them back. -/
theorem parse_accepts :
    (∀ (text : String) (x : Address), parse text = .ok x ↔ Written (trim text.toList) x) ∧
    (∀ text : String, (∀ x, ¬ Written (trim text.toList) x) →
      ∃ e, parse text = .error e ∧
        ∀ (network : Network) (s : Session) (user password database : String),
          (s.step network (.connect ⟨text, user, password, database⟩)).1 =
            .failed (.connection e.message)) ∧
    ∀ (host : String) (port : Nat), host ≠ "" → (∀ c ∈ host.toList.head?, isBlank c = false) →
      port < 65536 → parse (host ++ ":" ++ toString port) = .ok ⟨host, port⟩ := by
  have hparse : ∀ (text : String) (x : Address),
      parse text = .ok x ↔ Written (trim text.toList) x :=
    fun text x => ofTrimmed_eq_ok_iff
  refine ⟨hparse, ?_, ?_⟩
  · intro text hnone
    cases hread : parse text with
    | ok x => exact absurd ((hparse text x).1 hread) (hnone x)
    | error e => exact ⟨e, rfl, step_connect_of_parse hread⟩
  · intro host port hne hhost hport
    have hnumber := writesNumber_toString port
    have hhost' : host.toList ≠ [] := by simpa using hne
    have htext : (host ++ ":" ++ toString port).toList =
        host.toList ++ ':' :: (toString port).toList := by
      simp
    rw [hparse, htext, trim_hostPort hhost' hhost hnumber]
    have hwritten := Written.hostPort hhost' hnumber.colon_not_mem hnumber (by omega : port ≤ 65535)
    rw [String.ofList_toList] at hwritten
    exact hwritten

/-- Only the last of several colons counts, and one number too many is no port. -/
theorem parse_accepts_last_colon :
    parse " ::1:+0065535\n" = .ok ⟨"::1", 65535⟩ ∧
    (∃ e, parse "db:65536" = .error e) ∧
    parse ("::1" ++ ":" ++ toString 65535) = .ok ⟨"::1", 65535⟩ := by
  obtain ⟨hparse, hrefused, hprinted⟩ := parse_accepts
  have hfirst : isBlank ':' = false := by decide
  refine ⟨?_, ?_, hprinted "::1" 65535 (by decide) (by simpa using hfirst) (by decide)⟩
  · have htrim : trim " ::1:+0065535\n".toList = "::1".toList ++ ':' :: "+0065535".toList := by
      decide
    rw [hparse, htrim]
    exact .hostPort (by decide) (by decide)
      ⟨['+'], "0065535".toList, by decide, .inr rfl, by decide, by simp, by decide⟩ (by decide)
  · have hread : parse "db:65536" = .error (.invalidPort "db:65536" .tooLarge) := by rfl
    obtain ⟨e, he, -⟩ := hrefused "db:65536" fun x hx => by
      have hx' := (hparse _ x).2 hx
      rw [hread] at hx'
      simp at hx'
    exact ⟨e, he⟩

end Address

end Scribe.Schema
