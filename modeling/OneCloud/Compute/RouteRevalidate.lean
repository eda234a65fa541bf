import OneCloud.Compute.RouteValidate

/-
This file shows that the text `IPNet.String` prints for an IPv4 network is read back by
`ParseCIDR` as the same network, and from it that `SRoutes.Validate` accepts the routes it
leaves, unchanged: a table's routes sent back through the checks stay as they are.
-/

namespace OneCloud.Compute

open GoText

/-! ### Decimal text -/

theorem digitChar_digit : ∀ k < 10, (Nat.digitChar k).isDigit = true ∧ (Nat.digitChar k).toNat - '0'.toNat = k := by
  decide

theorem decimalValue_append_singleton (digits : List Char) (c : Char) :
    decimalValue (digits ++ [c]) = decimalValue digits * 10 + (c.toNat - '0'.toNat) := by
  simp [decimalValue, List.foldl_append]

/-- One digit of `toDigitsCore` in base 10. -/
theorem toDigitsCore_succ (fuel n : Nat) (ds : List Char) :
    Nat.toDigitsCore 10 (fuel + 1) n ds =
      if n / 10 = 0 then Nat.digitChar (n % 10) :: ds
      else Nat.toDigitsCore 10 fuel (n / 10) (Nat.digitChar (n % 10) :: ds) :=
  rfl

/-- With enough fuel `toDigitsCore` puts in front the decimal digits of the number. -/
theorem toDigitsCore_decimal : ∀ (fuel n : Nat) (ds : List Char), n < fuel →
    ∃ digits, Nat.toDigitsCore 10 fuel n ds = digits ++ ds ∧ digits ≠ [] ∧
      (∀ c ∈ digits, c.isDigit = true) ∧ decimalValue digits = n
  | 0, _, _, below => absurd below (Nat.not_lt_zero _)
  | fuel + 1, n, ds, below => by
      have last := digitChar_digit (n % 10) (Nat.mod_lt _ (by decide))
      by_cases small : n / 10 = 0
      · refine ⟨[Nat.digitChar (n % 10)], by rw [toDigitsCore_succ, if_pos small, List.singleton_append], List.cons_ne_nil _ _,
          by simpa using last.1, ?_⟩
        rw [← List.nil_append [_], decimalValue_append_singleton, last.2]
        simp [decimalValue]
        omega
      · obtain ⟨digits, core, nonempty, decimal, value⟩ :=
          toDigitsCore_decimal fuel (n / 10) (Nat.digitChar (n % 10) :: ds) (by omega)
        refine ⟨digits ++ [Nat.digitChar (n % 10)], ?_, by simp, ?_, ?_⟩
        · rw [toDigitsCore_succ, if_neg small, core, List.append_assoc, List.singleton_append]
        · simpa [or_imp, forall_and] using ⟨decimal, last.1⟩
        · rw [decimalValue_append_singleton, value, last.2]
          omega

/-- `Nat.repr` prints a number as decimal digits whose value is the number. -/
theorem repr_decimal (n : Nat) :
    (Nat.repr n).data ≠ [] ∧ (∀ c ∈ (Nat.repr n).data, c.isDigit = true) ∧ decimalValue (Nat.repr n).data = n := by
  obtain ⟨digits, core, nonempty, decimal, value⟩ := toDigitsCore_decimal (n + 1) n [] (Nat.lt_succ_self n)
  have printed : (Nat.repr n).data = digits := by
    rw [← List.append_nil digits, ← core]
    rfl
  rw [printed]
  exact ⟨nonempty, decimal, value⟩

/-- `dtoi` reads a printed number back when no digit follows it. -/
theorem dtoi_repr {n : Nat} (small : n < 0xFFFFFF) {rest : List Char}
    (stop : ∀ c ∈ rest.head?, c.isDigit = false) : dtoi ((Nat.repr n).data ++ rest) = some (n, rest) := by
  obtain ⟨nonempty, decimal, value⟩ := repr_decimal n
  have run : ((Nat.repr n).data ++ rest).takeWhile Char.isDigit = (Nat.repr n).data := by
    rw [List.takeWhile_append_of_pos decimal]
    cases rest with
    | nil => simp
    | cons c more => simp [List.takeWhile_cons, stop c rfl]
  simp [dtoi, run, nonempty, value, small]

/-! ### IPv4 text -/

/-- A number stops before a `.`, and at the end of the text. -/
theorem head_dot_not_digit (rest : List Char) : ∀ c ∈ ('.' :: rest).head?, c.isDigit = false := by
  rintro c ⟨⟩
  rfl

theorem head_nil_not_digit : ∀ c ∈ ([] : List Char).head?, c.isDigit = false :=
  fun _ found => nomatch found

theorem parseIPv4Field_first {n : Nat} (byte : n < 256) {rest : List Char}
    (stop : ∀ c ∈ rest.head?, c.isDigit = false) :
    parseIPv4Field true ((Nat.repr n).data ++ rest) = some (n, rest) := by
  simp [parseIPv4Field, dtoi_repr (by omega : n < 0xFFFFFF) stop, show ¬0xFF < n by omega]

theorem parseIPv4Field_next {n : Nat} (byte : n < 256) {rest : List Char}
    (stop : ∀ c ∈ rest.head?, c.isDigit = false) :
    parseIPv4Field false ('.' :: ((Nat.repr n).data ++ rest)) = some (n, rest) := by
  simp [parseIPv4Field, dtoi_repr (by omega : n < 0xFFFFFF) stop, show ¬0xFF < n by omega]

/-- The text of an IPv4 address is its four bytes, printed and dotted. -/
theorem ipv4String_data (ip : Nat) :
    (ipv4String ip).data = (Nat.repr (ip / 2 ^ 24 % 256)).data ++ '.' :: ((Nat.repr (ip / 2 ^ 16 % 256)).data ++
      '.' :: ((Nat.repr (ip / 2 ^ 8 % 256)).data ++ '.' :: ((Nat.repr (ip % 256)).data ++ []))) := by
  simp [ipv4String, toString]

/-- `parseIPv4` reads the text of an address back. -/
theorem parseIPv4_ipv4String {ip : Nat} (below : ip < 2 ^ 32) : parseIPv4 (ipv4String ip).data = some ip := by
  rw [ipv4String_data]
  simp only [parseIPv4, parseIPv4Field_first (Nat.mod_lt _ (by decide)) (head_dot_not_digit _), Option.bind_eq_bind,
    Option.some_bind, parseIPv4Field_next (Nat.mod_lt _ (by decide)) (head_dot_not_digit _),
    parseIPv4Field_next (Nat.mod_lt _ (by decide)) head_nil_not_digit, if_true, Option.some.injEq]
  rw [show (2 : Nat) ^ 32 = 4294967296 from rfl] at below
  simp only [show (2 : Nat) ^ 24 = 16777216 from rfl, show (2 : Nat) ^ 16 = 65536 from rfl,
    show (2 : Nat) ^ 8 = 256 from rfl]
  omega

/-- A byte that `parseIPv4Field` reads is at most `0xFF`. -/
theorem parseIPv4Field_le {first : Bool} {s : List Char} {n : Nat} {rest : List Char}
    (parsed : parseIPv4Field first s = some (n, rest)) : n ≤ 255 := by
  cases first <;> simp [parseIPv4Field, Option.bind_eq_some] at parsed
  · split at parsed
    · simp only [Option.bind_eq_some, Option.ite_none_left_eq_some, Option.some.injEq] at parsed
      obtain ⟨_, -, small, rfl⟩ := parsed
      omega
    · cases parsed
  · exact parsed.2

/-- Every address `parseIPv4` reads fits in 32 bits. -/
theorem parseIPv4_lt {s : List Char} {ip : Nat} (parsed : parseIPv4 s = some ip) : ip < 2 ^ 32 := by
  simp only [parseIPv4, Option.bind_eq_bind, Option.bind_eq_some, Option.ite_none_right_eq_some,
    Option.some.injEq, Prod.exists] at parsed
  obtain ⟨a, _, first, b, _, second, c, _, third, d, _, fourth, -, rfl⟩ := parsed
  have := parseIPv4Field_le first
  have := parseIPv4Field_le second
  have := parseIPv4Field_le third
  have := parseIPv4Field_le fourth
  show _ < 4294967296
  omega

/-- The text of an address holds no `/`. -/
theorem slash_not_mem_ipv4String (ip : Nat) : '/' ∉ (ipv4String ip).data := by
  have digits : ∀ n, '/' ∉ (Nat.repr n).data := fun n found =>
    absurd ((repr_decimal n).2.1 '/' found) (by decide)
  rw [ipv4String_data]
  simp [digits]

theorem ipv4String_ne_nil (ip : Nat) : (ipv4String ip).data ≠ [] := by
  simp [ipv4String_data]

/-- The text of an IPv4 network: the address, a `/`, the prefix length. -/
theorem IPNet.toString_v4 (ip ones : Nat) :
    (IPNet.v4 ip ones).toString = ⟨(ipv4String ip).data ++ '/' :: (Nat.repr ones).data⟩ := by
  apply String.ext
  simp [IPNet.toString]

/-- `ParseCIDR` reads the text of an IPv4 network back as the network, masked again. -/
theorem parseCIDR_v4_toString (net : NetIPv6) {ip ones : Nat} (below : ip < 2 ^ 32) (prefixLen : ones ≤ 32) :
    parseCIDR net (IPNet.v4 ip ones).toString = .ok (.v4 (maskIPv4 ip ones) ones) := by
  have suffix : dtoi (Nat.repr ones).data = some (ones, []) := by
    simpa using @dtoi_repr ones (by omega) [] head_nil_not_digit
  have nonneg : ¬((ipv4String ip).data.length : Int) < 0 := by omega
  rw [IPNet.toString_v4]
  dsimp only [parseCIDR]
  rw [indexByte_append (slash_not_mem_ipv4String ip), if_neg nonneg, sliceFrom_append, suffix]
  simp only [sliceTo_append, parseIPv4_ipv4String below, if_pos prefixLen]

/-! ### Masks -/

theorem maskIPv4_le (ip ones : Nat) : maskIPv4 ip ones ≤ ip :=
  Nat.div_mul_le_self ip _

/-- Masking an address twice to one prefix length masks it once. -/
theorem maskIPv4_maskIPv4 (ip ones : Nat) : maskIPv4 (maskIPv4 ip ones) ones = maskIPv4 ip ones := by
  simp only [maskIPv4, Nat.mul_div_cancel _ (Nat.two_pow_pos _)]

/-! ### Reading a network back -/

/-- `ParseCIDR` returns a masked 32-bit IPv4 network or a network of the IPv6 part of `net`. -/
theorem parseCIDR_ok {net : NetIPv6} {s : String} {ipNet : IPNet} (parsed : parseCIDR net s = .ok ipNet) :
    (∃ ip ones, ipNet = .v4 (maskIPv4 ip ones) ones ∧ ip < 2 ^ 32 ∧ ones ≤ 32) ∨
      ∃ addr ones text, ipNet = .v6 text ∧ net.parseCIDRv6 addr ones = some text := by
  dsimp only [parseCIDR] at parsed
  split_ifs at parsed
  split at parsed
  · rename_i ones _
    split at parsed
    · rename_i ip addressed
      split_ifs at parsed with prefixLen
      cases parsed
      exact .inl ⟨ip, ones, rfl, parseIPv4_lt addressed, prefixLen⟩
    · split at parsed
      · rename_i text built
        cases parsed
        split_ifs at built
        exact .inr ⟨_, ones, text, rfl, built⟩
      · cases parsed
  · cases parsed

/-- The IPv6 networks that `ParseCIDR` builds are read back from their text. -/
def NetIPv6.ReadsBack (net : NetIPv6) : Prop :=
  ∀ addr ones text, net.parseCIDRv6 addr ones = some text →
    0 < indexByte text '/' ∧ ∃ ipNet, parseCIDR net text = .ok ipNet ∧ ipNet.toString = text

/-- Every network that `ParseCIDR` returns is read back from its text. -/
theorem parseCIDR_toString_reread {net : NetIPv6} (v6 : net.ReadsBack) {s : String} {ipNet : IPNet}
    (parsed : parseCIDR net s = .ok ipNet) :
    0 < indexByte ipNet.toString '/' ∧ ∃ again, parseCIDR net ipNet.toString = .ok again ∧ again.toString = ipNet.toString := by
  obtain ⟨ip, ones, rfl, below, prefixLen⟩ | ⟨addr, ones, text, rfl, built⟩ := parseCIDR_ok parsed
  · refine ⟨?_, _, parseCIDR_v4_toString net (Nat.lt_of_le_of_lt (maskIPv4_le ip ones) below) prefixLen, ?_⟩
    · rw [IPNet.toString_v4, indexByte_append (slash_not_mem_ipv4String _)]
      have := List.length_pos_of_ne_nil (ipv4String_ne_nil (maskIPv4 ip ones))
      omega
    · rw [maskIPv4_maskIPv4]
  · exact v6 addr ones text built

/-! ### Validating the validated routes -/

/-- `SRoute.Validate` accepts the route it leaves, and leaves it as it is. -/
theorem SRoute.validate_fixed {net : NetIPv6} (v6 : net.ReadsBack) {route valid : SRoute}
    (accepted : route.validate net = .ok valid) : valid.validate net = .ok valid := by
  unfold SRoute.validate at accepted
  split_ifs at accepted with slash
  · split at accepted
    · cases accepted
    rename_i ipNet parsed
    cases accepted
    obtain ⟨slashAgain, again, reparsed, same⟩ := parseCIDR_toString_reread v6 parsed
    simp only [SRoute.validate, if_pos slashAgain, reparsed, same]
  · split at accepted
    · cases accepted
    rename_i found
    cases accepted
    simp only [SRoute.validate, if_neg slash, found]

/-- The loop of `SRoutes.Validate` leaves fixed routes with distinct new Cidrs unchanged. -/
theorem SRoutes.validateFrom_of_fixed {net : NetIPv6} : ∀ {found : List String} {routes : List SRoute},
    (∀ route ∈ routes, route.validate net = .ok route) → (routes.map SRoute.cidr).Nodup →
      (∀ route ∈ routes, route.cidr ∉ found) → SRoutes.validateFrom net found routes = .ok routes
  | _, [], _, _, _ => rfl
  | found, route :: rest, fixed, distinct, fresh => by
      rw [List.map_cons, List.nodup_cons] at distinct
      have restFresh : ∀ other ∈ rest, other.cidr ∉ route.cidr :: found := by
        intro other member inFound
        rcases List.mem_cons.mp inFound with same | old
        · exact distinct.1 (same ▸ List.mem_map_of_mem _ member)
        · exact fresh other (List.mem_cons_of_mem _ member) old
      simp only [validateFrom, fixed route (List.mem_cons_self _ _), if_neg (fresh route (List.mem_cons_self _ _)),
        SRoutes.validateFrom_of_fixed (fun other member => fixed other (List.mem_cons_of_mem _ member)) distinct.2
          restFresh]
      rfl

/-- `SRoutes.Validate` accepts the routes it leaves, unchanged. -/
theorem SRoutes.validate_validate {net : NetIPv6} (v6 : net.ReadsBack) {routes validated : List SRoute}
    (accepted : SRoutes.validate net routes = .ok validated) : SRoutes.validate net validated = .ok validated := by
  obtain ⟨pairs, distinct⟩ := SRoutes.validate_ok accepted
  refine SRoutes.validateFrom_of_fixed (fun valid member => ?_) distinct fun _ _ => List.not_mem_nil _
  obtain ⟨route, -, validRoute⟩ :=
    exists_mem_of_forall₂ pairs valid member
  exact SRoute.validate_fixed v6 validRoute

theorem SRoutes.validate_validate_prefix :
    let net : NetIPv6 := ⟨fun _ => none, fun _ _ => none⟩
    net.ReadsBack ∧ SRoutes.validate net [⟨"custom", "10.0.0.1/24", "", ""⟩] = .ok [⟨"custom", "10.0.0.0/24", "", ""⟩] ∧
      SRoutes.validate net [⟨"custom", "10.0.0.0/24", "", ""⟩] = .ok [⟨"custom", "10.0.0.0/24", "", ""⟩] := by
  intro net
  have v6 : net.ReadsBack := fun _ _ _ built => nomatch built
  have accepted : SRoutes.validate net [⟨"custom", "10.0.0.1/24", "", ""⟩] = .ok [⟨"custom", "10.0.0.0/24", "", ""⟩] := rfl
  exact ⟨v6, accepted, SRoutes.validate_validate v6 accepted⟩

end OneCloud.Compute
