/-
# Addresses as text

`ip_addr_pton` reads the four fields of a dotted address with `strtol`,
`ip_endpoint_pton` splits at the last `':'` and reads the port the same way,
and `ip_addr_ntop` and `ip_endpoint_ntop` print with `%d`. A C string is the
list of its characters before the terminator.

`strtol` skips leading blanks and takes a sign, so the parsers accept more
than four dotted decimal fields: `" 1.2.3.4"`, `"+1.2.3.4"` and `"-0.0.0.0"`
are addresses, and nothing is checked after the port's digits. The address
part is copied into a 16-byte buffer whatever its length. Everything the
printers produce is read back to what was printed.
-/

import Mathlib.Data.Nat.Digits
import MicroPs.Net.Bytes
import MicroPs.Tcp.Pcb

namespace MicroPs.Net

open MicroPs.Tcp

/-! ## `strtol` -/

/-- `isspace` in the C locale: the blank and `\t`, `\n`, `\v`, `\f`, `\r`. -/
def cIsspace (c : Char) : Bool := c = ' ' || (9 ≤ c.toNat && c.toNat ≤ 13)

/-- The value of a decimal digit. -/
def digitValue (c : Char) : Nat := c.toNat - 48

/-- The digit loop of `strtol` in base 10: the value of the digits at the
front of `s`, after `acc`, and the rest of `s`. -/
def strtolDigits : List Char → Nat → Nat × List Char
  | [], acc => (acc, [])
  | c :: cs, acc => if c.isDigit then strtolDigits cs (acc * 10 + digitValue c) else (acc, c :: cs)

/-- `LONG_MIN`: `long` is 64 bits wide on the Linux platform. -/
def longMin : Int := -2 ^ 63

/-- `LONG_MAX`. -/
def longMax : Int := 2 ^ 63 - 1

/-- `strtol(s, &end, 10)`: blanks, an optional sign, then decimal digits,
whose value is clamped to the range of `long`. `end` is the rest of `s` after
the digits, or `s` itself when there are none. -/
def strtol (s : List Char) : Int × List Char :=
  let (neg, u) : Bool × List Char := match s.dropWhile cIsspace with
    | '-' :: u => (true, u)
    | '+' :: u => (false, u)
    | u => (false, u)
  match u with
  | c :: _ =>
    if c.isDigit then
      let (v, rest) := strtolDigits u 0
      (max longMin (min longMax (if neg then -(v : Int) else v)), rest)
    else (0, s)
  | [] => (0, s)

/-! ## The parsers and the printers -/

/-- One pass of the loop of `ip_addr_pton`: a value in `0..255` with digits
at `sp`, followed by `'.'`, or by the end of the string in the last field
(`idx = 3`). `ep == sp` compares two positions in one string, that is the
lengths of what follows them. The next field starts after the `'.'`. -/
def ipAddrPtonField (idx : Nat) (sp : List Char) : Option (BitVec 8 × List Char) :=
  let (ret, ep) := strtol sp
  if ret < 0 ∨ ret > 255 then none
  else if ep.length = sp.length then none
  else if (idx = 3 ∧ ep ≠ []) ∨ (idx ≠ 3 ∧ ep.head? ≠ some '.') then none
  else some (BitVec.ofNat 8 ret.toNat, ep.drop 1)

/-- `ip_addr_pton`: the four fields are the bytes of the address as it lies
in memory. On failure the C code keeps the bytes it has written so far in
`*n`, which its callers do not read. -/
def ipAddrPton (p : List Char) : Option (BitVec 32) := do
  let (b₀, s₁) ← ipAddrPtonField 0 p
  let (b₁, s₂) ← ipAddrPtonField 1 s₁
  let (b₂, s₃) ← ipAddrPtonField 2 s₂
  let (b₃, _) ← ipAddrPtonField 3 s₃
  pure (load32 b₀ b₁ b₂ b₃)

/-- `ip_addr_ntop`: the bytes of the address as it lies in memory, printed
with `%d` and separated by dots. At most fifteen characters, which fit the
`IP_ADDR_STR_LEN` buffers every caller passes. -/
def ipAddrNtop (n : BitVec 32) : List Char :=
  let u8 := mem32 n
  Nat.toDigits 10 (u8.getD 0 0).toNat ++ '.' :: Nat.toDigits 10 (u8.getD 1 0).toNat ++
    '.' :: Nat.toDigits 10 (u8.getD 2 0).toNat ++ '.' :: Nat.toDigits 10 (u8.getD 3 0).toNat

/-- `IP_ADDR_STR_LEN` of ip.h, which is not among the sources: room for
`255.255.255.255` and its terminator. -/
def ipAddrStrLen : Nat := 16

/-- `strrchr(p, c)`: the offset of the last `c` in `p`. -/
def strrchr : List Char → Char → Option Nat
  | [], _ => none
  | x :: xs, c =>
    match strrchr xs c with
    | some i => some (i + 1)
    | none => if x = c then some 0 else none

/-- What a call of `ip_endpoint_pton` does: fill in the endpoint and return
0; return -1; or overrun its buffer `char addr[IP_ADDR_STR_LEN]`, into which
`memcpy` copies an address part of 16 characters or more, past its end or
without room for the terminator `ip_addr_pton` looks for. -/
inductive IpEndpointPton
  | ok (e : IpEndpoint)
  | error
  | overrun
  deriving DecidableEq, Repr

/-- `ip_endpoint_pton`: the address before the last `':'`, and the port
after it as `strtol` reads it, with nothing checked after its digits. -/
def ipEndpointPton (p : List Char) : IpEndpointPton :=
  match strrchr p ':' with
  | none => .error
  | some sep =>
    if ipAddrStrLen ≤ sep then .overrun
    else match ipAddrPton (p.take sep) with
      | none => .error
      | some addr =>
        let port := (strtol (p.drop (sep + 1))).1
        if port ≤ 0 ∨ port > 65535 then .error
        else .ok ⟨addr, hton16 (BitVec.ofNat 16 port.toNat)⟩

/-- `ip_endpoint_ntop`: the address, `':'` and the port in host order. -/
def ipEndpointNtop (e : IpEndpoint) : List Char :=
  ipAddrNtop e.addr ++ ':' :: Nat.toDigits 10 (ntoh16 e.port).toNat

/-! ## Printed numbers read back -/

/-- The value of a run of decimal digits. -/
def decimalValue (d : List Char) : Nat := d.foldl (fun v c => v * 10 + digitValue c) 0

theorem digitChar_decimal {k : Nat} (h : k < 10) :
    (Nat.digitChar k).isDigit ∧ digitValue (Nat.digitChar k) = k := by
  have hall : ∀ k < 10, (Nat.digitChar k).isDigit ∧ digitValue (Nat.digitChar k) = k := by decide
  exact hall k h

theorem toDigitsCore_append (b : Nat) :
    ∀ (f n : Nat) (ds : List Char), Nat.toDigitsCore b f n ds = Nat.toDigitsCore b f n [] ++ ds
  | 0, _, _ => rfl
  | f + 1, n, ds => by
    simp only [Nat.toDigitsCore]
    split
    · rfl
    · rw [toDigitsCore_append b f _ (_ :: ds), toDigitsCore_append b f _ [_]]
      simp

theorem toDigitsCore_decimal :
    ∀ (f n : Nat), n < f → Nat.toDigitsCore 10 f n [] ≠ [] ∧
      (∀ c ∈ Nat.toDigitsCore 10 f n [], c.isDigit) ∧ decimalValue (Nat.toDigitsCore 10 f n []) = n
  | 0, n, h => absurd h (Nat.not_lt_zero n)
  | f + 1, n, h => by
    obtain ⟨hdig, hval⟩ := digitChar_decimal (Nat.mod_lt n (by decide : 10 > 0))
    simp only [Nat.toDigitsCore]
    split
    · refine ⟨List.cons_ne_nil _ _, by simpa using hdig, ?_⟩
      simp only [decimalValue, List.foldl_cons, List.foldl_nil, hval]
      omega
    · rw [toDigitsCore_append]
      obtain ⟨-, hall, hv⟩ := toDigitsCore_decimal f (n / 10) (by omega)
      refine ⟨by simp, fun c hc => ?_, ?_⟩
      · rcases List.mem_append.1 hc with hc | hc
        · exact hall c hc
        · rw [List.mem_singleton.1 hc]; exact hdig
      · unfold decimalValue at hv ⊢
        rw [List.foldl_append, hv]
        simp only [List.foldl_cons, List.foldl_nil, hval]
        omega

/-- What `%d` prints for a number: a non-empty run of digits whose value is
the number. -/
theorem toDigits_decimal (n : Nat) :
    Nat.toDigits 10 n ≠ [] ∧ (∀ c ∈ Nat.toDigits 10 n, c.isDigit) ∧
      decimalValue (Nat.toDigits 10 n) = n :=
  toDigitsCore_decimal (n + 1) n (Nat.lt_succ_self n)

/-! ## `strtol` on a run of digits -/

theorem isDigit_iff_toNat (c : Char) : c.isDigit = true ↔ 48 ≤ c.toNat ∧ c.toNat ≤ 57 := by
  simp only [Char.isDigit, Char.toNat, UInt32.le_def, BitVec.le_def, Bool.and_eq_true,
    decide_eq_true_eq]
  rfl

theorem strtolDigits_append {d : List Char} (hd : ∀ c ∈ d, c.isDigit) {rest : List Char}
    (hrest : ∀ c ∈ rest.head?, c.isDigit = false) (acc : Nat) :
    strtolDigits (d ++ rest) acc = (d.foldl (fun v c => v * 10 + digitValue c) acc, rest) := by
  induction d generalizing acc with
  | nil =>
    cases rest with
    | nil => rfl
    | cons c cs => simp [strtolDigits, hrest c rfl]
  | cons c cs ih =>
    simp only [List.cons_append, strtolDigits, hd c (List.mem_cons_self c cs), if_true,
      List.foldl_cons]
    exact ih (fun c' hc' => hd c' (List.mem_cons_of_mem c hc')) _

/-- `strtol` on a run of digits that a non-digit or the end of the string
follows reads its value, and ends right after it. -/
theorem strtol_decimal {d rest : List Char} (hne : d ≠ []) (hd : ∀ c ∈ d, c.isDigit)
    (hrest : ∀ c ∈ rest.head?, c.isDigit = false) (hv : decimalValue d ≤ 65535) :
    strtol (d ++ rest) = ((decimalValue d : Int), rest) := by
  obtain ⟨c, cs, rfl⟩ := List.exists_cons_of_ne_nil hne
  have hc := (isDigit_iff_toNat c).1 (hd c (List.mem_cons_self c cs))
  have hsp : cIsspace c = false := by
    cases h : cIsspace c
    · rfl
    · simp only [cIsspace, Bool.or_eq_true, decide_eq_true_eq, Bool.and_eq_true] at h
      rcases h with h | h
      · rw [h] at hc; simp at hc
      · omega
  have hsign : c ≠ '-' ∧ c ≠ '+' :=
    ⟨fun h => by rw [h] at hc; simp at hc, fun h => by rw [h] at hc; simp at hc⟩
  unfold strtol
  rw [List.cons_append, List.dropWhile_cons_of_neg (by simp [hsp])]
  split
  rename_i neg u heq
  split at heq
  · simp_all
  · simp_all
  · cases heq
    dsimp only
    rw [if_pos (hd c (List.mem_cons_self c cs)), ← List.cons_append, strtolDigits_append hd hrest]
    have hmin : longMin ≤ (decimalValue (c :: cs) : Int) := by unfold longMin; omega
    have hmax : (decimalValue (c :: cs) : Int) ≤ longMax := by unfold longMax; omega
    simp only [Bool.false_eq_true, if_false]
    rw [show (c :: cs).foldl (fun v c => v * 10 + digitValue c) 0 = decimalValue (c :: cs) from rfl,
      Int.min_eq_right hmax, Int.max_eq_right hmin]

/-! ## The grammar of dotted addresses -/

/-- Modelled from the spec: a field of a dotted address, a non-empty run of
decimal digits of value at most 255. -/
def DecimalByte (d : List Char) : Prop :=
  d ≠ [] ∧ (∀ c ∈ d, c.isDigit) ∧ decimalValue d ≤ 255

instance (d : List Char) : Decidable (DecimalByte d) := inferInstanceAs (Decidable (_ ∧ _))

/-- Modelled from the spec: four fields separated by dots and nothing else,
naming the bytes of the address `n` in order. -/
def DottedQuad (p : List Char) (n : BitVec 32) : Prop :=
  ∃ d₀ d₁ d₂ d₃, DecimalByte d₀ ∧ DecimalByte d₁ ∧ DecimalByte d₂ ∧ DecimalByte d₃ ∧
    p = d₀ ++ '.' :: (d₁ ++ '.' :: (d₂ ++ '.' :: d₃)) ∧
    n = load32 (BitVec.ofNat 8 (decimalValue d₀)) (BitVec.ofNat 8 (decimalValue d₁))
      (BitVec.ofNat 8 (decimalValue d₂)) (BitVec.ofNat 8 (decimalValue d₃))

/-- A field of the grammar passes the loop of `ip_addr_pton`, when the dot or
the end of the string that the loop expects follows it. -/
theorem ipAddrPtonField_decimal {d : List Char} (hd : DecimalByte d) (idx : Nat)
    (rest : List Char) (hrest : if idx = 3 then rest = [] else rest.head? = some '.') :
    ipAddrPtonField idx (d ++ rest) = some (BitVec.ofNat 8 (decimalValue d), rest.drop 1) := by
  obtain ⟨hne, hdig, hv⟩ := hd
  have hnd : ∀ c ∈ rest.head?, c.isDigit = false := by
    intro c hc
    split_ifs at hrest
    · simp [hrest] at hc
    · rw [hrest, Option.mem_some_iff] at hc; rw [← hc]; rfl
  unfold ipAddrPtonField
  rw [strtol_decimal hne hdig hnd (by omega)]
  have hlen : rest.length ≠ (d ++ rest).length := by
    have := List.length_pos.2 hne; simp only [List.length_append]; omega
  split_ifs at hrest ⊢ <;> simp_all

theorem DottedQuad.ipAddrPton {p : List Char} {n : BitVec 32} (h : DottedQuad p n) :
    ipAddrPton p = some n := by
  obtain ⟨d₀, d₁, d₂, d₃, h₀, h₁, h₂, h₃, rfl, rfl⟩ := h
  have f₀ := ipAddrPtonField_decimal h₀ 0 ('.' :: (d₁ ++ '.' :: (d₂ ++ '.' :: d₃))) rfl
  have f₁ := ipAddrPtonField_decimal h₁ 1 ('.' :: (d₂ ++ '.' :: d₃)) rfl
  have f₂ := ipAddrPtonField_decimal h₂ 2 ('.' :: d₃) rfl
  have f₃ := ipAddrPtonField_decimal h₃ 3 [] rfl
  rw [List.append_nil] at f₃
  simp [MicroPs.Net.ipAddrPton, f₀, f₁, f₂, f₃]

/-! ## Round trips -/

theorem decimalByte_toDigits (b : BitVec 8) : DecimalByte (Nat.toDigits 10 b.toNat) := by
  obtain ⟨hne, hdig, hv⟩ := toDigits_decimal b.toNat
  exact ⟨hne, hdig, by rw [hv]; omega⟩

theorem toDigits_length_le (b : BitVec 8) : (Nat.toDigits 10 b.toNat).length ≤ 3 :=
  Nat.toDigitsCore_length 10 (by decide) _ _ 3 (by omega) (by decide)

/-- What `ip_addr_ntop` prints is in the grammar, and names the address. -/
theorem ipAddrNtop_dottedQuad (n : BitVec 32) : DottedQuad (ipAddrNtop n) n := by
  refine ⟨_, _, _, _, decimalByte_toDigits ((mem32 n).getD 0 0),
    decimalByte_toDigits ((mem32 n).getD 1 0), decimalByte_toDigits ((mem32 n).getD 2 0),
    decimalByte_toDigits ((mem32 n).getD 3 0), by simp [ipAddrNtop], ?_⟩
  simp only [(toDigits_decimal _).2.2, BitVec.ofNat_toNat, BitVec.setWidth_eq]
  simp only [mem32, List.getD_cons_zero, List.getD_cons_succ, load32_bytes]

theorem ipAddrPton_ipAddrNtop (n : BitVec 32) : ipAddrPton (ipAddrNtop n) = some n :=
  (ipAddrNtop_dottedQuad n).ipAddrPton

example : ipAddrNtop (load32 192 0 2 1) = "192.0.2.1".toList := by decide

theorem ipAddrNtop_length_lt (n : BitVec 32) : (ipAddrNtop n).length < ipAddrStrLen := by
  have h₀ := toDigits_length_le ((mem32 n).getD 0 0)
  have h₁ := toDigits_length_le ((mem32 n).getD 1 0)
  have h₂ := toDigits_length_le ((mem32 n).getD 2 0)
  have h₃ := toDigits_length_le ((mem32 n).getD 3 0)
  simp only [ipAddrNtop, List.length_append, List.length_cons, ipAddrStrLen]
  omega

/-! ## Endpoints -/

/-- Modelled from the spec: a port, a non-empty run of decimal digits of value
in `1..65535`, naming `port` in network byte order. -/
def DecimalPort (d : List Char) (port : BitVec 16) : Prop :=
  d ≠ [] ∧ (∀ c ∈ d, c.isDigit) ∧ 0 < decimalValue d ∧ decimalValue d ≤ 65535 ∧
    port = hton16 (BitVec.ofNat 16 (decimalValue d))

instance (d : List Char) (port : BitVec 16) : Decidable (DecimalPort d port) :=
  inferInstanceAs (Decidable (_ ∧ _))

/-- Modelled from the spec: an address, `':'` and a port, and nothing else. -/
def EndpointText (p : List Char) (e : IpEndpoint) : Prop :=
  ∃ a d, DottedQuad a e.addr ∧ DecimalPort d e.port ∧ p = a ++ ':' :: d

/-- Every character of a dotted address is a digit or a dot. -/
theorem DottedQuad.chars {p : List Char} {n : BitVec 32} (h : DottedQuad p n) :
    ∀ c ∈ p, c.isDigit ∨ c = '.' := by
  obtain ⟨d₀, d₁, d₂, d₃, h₀, h₁, h₂, h₃, rfl, -⟩ := h
  intro c hc
  simp only [List.mem_append, List.mem_cons] at hc
  rcases hc with hc | rfl | hc | rfl | hc | rfl | hc
  exacts [.inl (h₀.2.1 c hc), .inr rfl, .inl (h₁.2.1 c hc), .inr rfl, .inl (h₂.2.1 c hc),
    .inr rfl, .inl (h₃.2.1 c hc)]

/-- Every character of an endpoint is a digit, a dot or the colon. -/
theorem EndpointText.chars {p : List Char} {e : IpEndpoint} (h : EndpointText p e) :
    ∀ c ∈ p, c.isDigit ∨ c = '.' ∨ c = ':' := by
  obtain ⟨a, d, ha, hd, rfl⟩ := h
  intro c hc
  simp only [List.mem_append, List.mem_cons] at hc
  rcases hc with hc | rfl | hc
  exacts [(ha.chars c hc).imp_right .inl, .inr (.inr rfl), .inl (hd.2.1 c hc)]

theorem strrchr_eq_none {c : Char} : ∀ {p : List Char}, c ∉ p → strrchr p c = none
  | [], _ => rfl
  | x :: xs, h => by
    rw [List.mem_cons, not_or] at h
    simp [strrchr, strrchr_eq_none h.2, Ne.symm h.1]

/-- The last `c` of a string is the one no `c` follows. -/
theorem strrchr_append_cons {c : Char} {l₂ : List Char} (h : c ∉ l₂) :
    ∀ l₁ : List Char, strrchr (l₁ ++ c :: l₂) c = some l₁.length
  | [] => by simp [strrchr, strrchr_eq_none h]
  | x :: xs => by simp [strrchr, strrchr_append_cons h xs]

/-- An endpoint whose address part is shorter than `IP_ADDR_STR_LEN` is read
as the grammar says. -/
theorem EndpointText.ipEndpointPton {a d : List Char} {e : IpEndpoint}
    (ha : DottedQuad a e.addr) (hd : DecimalPort d e.port) (hlen : a.length < ipAddrStrLen) :
    ipEndpointPton (a ++ ':' :: d) = .ok e := by
  obtain ⟨hne, hdig, hpos, hle, hport⟩ := hd
  have hs := strrchr_append_cons (fun h => absurd (hdig ':' h) (by decide)) a
  have ht := @strtol_decimal d [] hne hdig (by simp) hle
  rw [List.append_nil] at ht
  have hdrop : (a ++ ':' :: d).drop (a.length + 1) = d := by rw [List.drop_append]; rfl
  simp only [MicroPs.Net.ipEndpointPton, hs, Nat.not_le.2 hlen, if_false, List.take_left,
    ha.ipAddrPton, hdrop, ht, Int.toNat_ofNat]
  rw [if_neg (by omega), ← hport]

/-- `ip_endpoint_pton` reads back what `ip_endpoint_ntop` prints for an
endpoint with a port. -/
theorem ipEndpointPton_ipEndpointNtop {e : IpEndpoint} (h : e.port ≠ 0) :
    ipEndpointPton (ipEndpointNtop e) = .ok e := by
  obtain ⟨hne, hd, hv⟩ := toDigits_decimal (ntoh16 e.port).toNat
  have hpos : 0 < (ntoh16 e.port).toNat := by
    refine Nat.pos_of_ne_zero fun h0 => h ?_
    rw [← hton16_hton16 e.port, show hton16 e.port = 0 from BitVec.eq_of_toNat_eq h0]
    rfl
  refine EndpointText.ipEndpointPton (ipAddrNtop_dottedQuad e.addr)
    ⟨hne, hd, by omega, by omega, ?_⟩ (ipAddrNtop_length_lt _)
  rw [hv]
  simp [ntoh16]

/-! ## What the parsers accept -/

/-- Every string of the grammar is read as the grammar says, with an address
part shorter than `IP_ADDR_STR_LEN` for an endpoint, and both printers are
read back. The parsers accept more: `strtol` lets a field start with a blank,
a `'+'` or `"-0"`, and nothing is checked after the port's digits. An endpoint
of the grammar whose address part has sixteen characters overruns the buffer
it is copied to. -/
theorem ipAddrPton_accepts_outside_grammar :
    (∀ p n, DottedQuad p n → ipAddrPton p = some n) ∧
    (∀ a d e, DottedQuad a e.addr → DecimalPort d e.port → a.length < ipAddrStrLen →
      ipEndpointPton (a ++ ':' :: d) = .ok e) ∧
    (∀ n, ipAddrPton (ipAddrNtop n) = some n) ∧
    (∀ e : IpEndpoint, e.port ≠ 0 → ipEndpointPton (ipEndpointNtop e) = .ok e) ∧
    (∀ n, ¬ DottedQuad " 1.2.3.4".toList n ∧ ¬ DottedQuad "+1.2.3.4".toList n ∧
      ¬ DottedQuad "-0.0.0.0".toList n) ∧
    ipAddrPton " 1.2.3.4".toList = some (load32 1 2 3 4) ∧
    ipAddrPton "+1.2.3.4".toList = some (load32 1 2 3 4) ∧
    ipAddrPton "-0.0.0.0".toList = some 0 ∧
    (∀ e, ¬ EndpointText "1.2.3.4:7x".toList e) ∧
    ipEndpointPton "1.2.3.4:7x".toList = .ok ⟨load32 1 2 3 4, hton16 7⟩ ∧
    EndpointText "0000000000001.2.3.4:7".toList ⟨load32 1 2 3 4, hton16 7⟩ ∧
    ipEndpointPton "0000000000001.2.3.4:7".toList = .overrun := by
  have hout : ∀ (p : List Char) (c : Char), c ∈ p → ¬(c.isDigit ∨ c = '.') →
      ∀ n, ¬ DottedQuad p n := fun p c hc h n hq => h (hq.chars c hc)
  refine ⟨fun _ _ h => h.ipAddrPton, fun _ _ _ ha hd hlen => EndpointText.ipEndpointPton ha hd hlen,
    ipAddrPton_ipAddrNtop, fun _ h => ipEndpointPton_ipEndpointNtop h,
    fun n => ⟨hout _ ' ' (by decide) (by decide) n, hout _ '+' (by decide) (by decide) n,
      hout _ '-' (by decide) (by decide) n⟩, by decide, by decide, by decide,
    fun e h => absurd (h.chars 'x' (by decide)) (by decide), by decide, ?_, by decide⟩
  exact ⟨"0000000000001.2.3.4".toList, "7".toList,
    ⟨"0000000000001".toList, "2".toList, "3".toList, "4".toList, by decide, by decide, by decide,
      by decide, by decide, by decide⟩, by decide, by decide⟩

end MicroPs.Net
