import OneCloud.Compute.RouteTableStore
import OneCloud.GoText
import Mathlib.Data.List.Forall2

/-
This file models `SRoute.Validate` and `SRoutes.Validate`, which check and normalise the
Cidr of each route and refuse a list that holds a Cidr twice, with the parts of `net` they
call.
-/

namespace OneCloud.Compute

open GoText

/-- `net.dtoi`: the leading decimal number below `0xFFFFFF` and the rest of `s`. -/
def dtoi (s : List Char) : Option (Nat × List Char) :=
  let digits := s.takeWhile Char.isDigit
  if digits = [] ∨ 0xFFFFFF ≤ decimalValue digits then none
  else some (decimalValue digits, s.drop digits.length)

/-- One field of `net.parseIPv4`: the `.` before every field but the first, then a decimal
byte. -/
def parseIPv4Field (first : Bool) (s : List Char) : Option (Nat × List Char) := do
  let s ← if first then some s else
    match s with
    | '.' :: rest => some rest
    | _ => none
  let (n, rest) ← dtoi s
  if 0xFF < n then none else some (n, rest)

/-- This is `net.parseIPv4` before Go 1.17, which accepts leading zeros. -/
def parseIPv4 (s : List Char) : Option Nat := do
  let (a, s) ← parseIPv4Field true s
  let (b, s) ← parseIPv4Field false s
  let (c, s) ← parseIPv4Field false s
  let (d, s) ← parseIPv4Field false s
  if s = [] then some (((a * 256 + b) * 256 + c) * 256 + d) else none

/-- What `net` does with IPv6 text, left as parameters of the model. -/
structure NetIPv6 where
  parseIPv6To4 : String → Option Nat
  parseCIDRv6 : String → Nat → Option String

/-- This is `net.ParseIP(s).To4()`, where the first `.` or `:` picks the form. -/
def parseIPTo4 (net : NetIPv6) (s : String) : Option Nat :=
  match s.data.find? (fun c => c == '.' || c == ':') with
  | some '.' => parseIPv4 s.data
  | some _ => net.parseIPv6To4 s
  | none => none

/-- `IP.String` of an IPv4 address: its four bytes in decimal, dotted. -/
def ipv4String (ip : Nat) : String :=
  toString (ip / 2 ^ 24 % 256) ++ "." ++ toString (ip / 2 ^ 16 % 256) ++ "." ++
    toString (ip / 2 ^ 8 % 256) ++ "." ++ toString (ip % 256)

/-- `IP.Mask(CIDRMask(ones, 32))` on an IPv4 address: its first `ones` bits. -/
def maskIPv4 (ip ones : Nat) : Nat := ip / 2 ^ (32 - ones) * 2 ^ (32 - ones)

/-- The network `ParseCIDR` returns, kept as the text its `String` gives. -/
inductive IPNet where
  | v4 (ip ones : Nat)
  | v6 (text : String)
  deriving DecidableEq, Repr

/-- `IPNet.String`. -/
def IPNet.toString : IPNet → String
  | .v4 ip ones => ipv4String ip ++ "/" ++ Nat.repr ones
  | .v6 text => text

/-- This is `net.ParseCIDR`, whose error reads `invalid CIDR address: s`. -/
def parseCIDR (net : NetIPv6) (s : String) : Except GoError IPNet :=
  let invalid : GoError := ⟨"invalid CIDR address: " ++ s⟩
  let i := indexByte s '/'
  if i < 0 then .error invalid
  else
    let addr := sliceTo s i
    match dtoi (sliceFrom s (i + 1)).data with
    | some (n, []) =>
        match parseIPv4 addr.data with
        | some ip => if n ≤ 32 then .ok (.v4 (maskIPv4 ip n) n) else .error invalid
        | none =>
            match if n ≤ 128 then net.parseCIDRv6 addr n else none with
            | some text => .ok (.v6 text)
            | none => .error invalid
    | _ => .error invalid

/-- This is `SRoute.Validate`, which rewrites a Cidr with a `/` to its network's text. -/
def SRoute.validate (net : NetIPv6) (route : SRoute) : Except GoError SRoute :=
  if 0 < indexByte route.cidr '/' then
    match parseCIDR net route.cidr with
    | .error err => .error err
    | .ok ipNet => .ok { route with cidr := ipNet.toString }
  else
    match parseIPTo4 net route.cidr with
    | none => .error ⟨"invalid addr " ++ route.cidr⟩
    | some _ => .ok route

/-- The loop of `SRoutes.Validate`, from the Cidrs already `found`. -/
def SRoutes.validateFrom (net : NetIPv6) (found : List String) :
    List SRoute → Except GoError (List SRoute)
  | [] => .ok []
  | route :: rest =>
      match route.validate net with
      | .error err => .error err
      | .ok route =>
          if route.cidr ∈ found then .error ⟨"duplicate route cidr " ++ route.cidr⟩
          else (SRoutes.validateFrom net (route.cidr :: found) rest).map (route :: ·)

/-- This is `SRoutes.Validate`, with the routes as it leaves them. -/
def SRoutes.validate (net : NetIPv6) (routes : List SRoute) : Except GoError (List SRoute) :=
  SRoutes.validateFrom net [] routes

/-- `SRoute.Validate` changes no field but the Cidr. -/
theorem SRoute.validate_ok {net : NetIPv6} {route valid : SRoute} (accepted : route.validate net = .ok valid) :
    valid = { route with cidr := valid.cidr } := by
  unfold SRoute.validate at accepted
  split_ifs at accepted
  · split at accepted
    · cases accepted
    · cases accepted
      rfl
  · split at accepted
    · cases accepted
    · cases accepted
      rfl

/-- `SRoutes.Validate` accepts each route as `SRoute.Validate` made it, with distinct new Cidrs. -/
theorem SRoutes.validateFrom_ok {net : NetIPv6} :
    ∀ {found : List String} {routes validated : List SRoute},
      SRoutes.validateFrom net found routes = .ok validated →
        List.Forall₂ (fun route valid => route.validate net = .ok valid) routes validated ∧
          (validated.map SRoute.cidr).Nodup ∧ ∀ valid ∈ validated, valid.cidr ∉ found
  | _, [], _, accepted => by
      cases accepted
      exact ⟨.nil, List.nodup_nil, fun _ member => absurd member (List.not_mem_nil _)⟩
  | found, route :: rest, validated, accepted => by
      simp only [validateFrom] at accepted
      split at accepted
      · cases accepted
      rename_i valid validRoute
      split_ifs at accepted with duplicate
      simp only [Except.map] at accepted
      split at accepted
      · cases accepted
      rename_i validRest restAccepted
      cases accepted
      obtain ⟨pairs, distinct, fresh⟩ := SRoutes.validateFrom_ok restAccepted
      refine ⟨.cons validRoute pairs, List.nodup_cons.mpr ⟨?_, distinct⟩, ?_⟩
      · intro member
        obtain ⟨other, otherMember, same⟩ := List.mem_map.mp member
        exact fresh other otherMember (same ▸ List.mem_cons_self _ _)
      · rintro other (_ | ⟨_, otherMember⟩)
        · exact duplicate
        · exact fun inFound => fresh other otherMember (List.mem_cons_of_mem _ inFound)

theorem SRoutes.validate_ok {net : NetIPv6} {routes validated : List SRoute}
    (accepted : SRoutes.validate net routes = .ok validated) :
    List.Forall₂ (fun route valid => route.validate net = .ok valid) routes validated ∧
      (validated.map SRoute.cidr).Nodup :=
  (SRoutes.validateFrom_ok accepted).imp_right And.left

/-- `SRoutes.Validate` keeps the type of every route. -/
theorem SRoutes.validate_types {net : NetIPv6} {routes validated : List SRoute}
    (accepted : SRoutes.validate net routes = .ok validated) :
    validated.map SRoute.type = routes.map SRoute.type := by
  have pairs := (SRoutes.validate_ok accepted).1
  clear accepted
  induction pairs with
  | nil => rfl
  | cons validRoute _ ih =>
      rw [List.map_cons, List.map_cons, ih, SRoute.validate_ok validRoute]

/-- Two Cidrs, each with a `/` after its first character, that `ParseCIDR` reads as one
network. -/
def SameSlashNetwork (net : NetIPv6) (first second : String) : Prop :=
  0 < indexByte first '/' ∧ 0 < indexByte second '/' ∧
    ∃ ipNet, parseCIDR net first = .ok ipNet ∧ parseCIDR net second = .ok ipNet

/-- A Cidr with a `/` after its first character becomes the text of its network. -/
theorem SRoute.validate_cidr_of_slash {net : NetIPv6} {route valid : SRoute} {ipNet : IPNet}
    (slash : 0 < indexByte route.cidr '/') (parsed : parseCIDR net route.cidr = .ok ipNet)
    (accepted : route.validate net = .ok valid) : valid.cidr = ipNet.toString := by
  simp only [SRoute.validate, slash, if_true, parsed] at accepted
  cases accepted
  rfl

/-- `SRoutes.Validate` never accepts two Cidrs with a `/` that name one network. -/
theorem SRoutes.validate_distinct_slash_networks {net : NetIPv6} {routes validated : List SRoute}
    (accepted : SRoutes.validate net routes = .ok validated) :
    routes.Pairwise fun first second => ¬ SameSlashNetwork net first.cidr second.cidr := by
  obtain ⟨pairs, distinct⟩ := SRoutes.validate_ok accepted
  clear accepted
  induction pairs with
  | nil => exact .nil
  | @cons route valid rest validRest validRoute pairsRest ih =>
      rw [List.map_cons, List.nodup_cons] at distinct
      refine .cons (fun other member ⟨slash, otherSlash, ipNet, parsed, otherParsed⟩ => ?_) (ih distinct.2)
      obtain ⟨otherValid, validMember, otherRoute⟩ :=
        exists_mem_of_forall₂ (List.Forall₂.flip pairsRest : List.Forall₂ (flip _) _ _) other member
      apply distinct.1
      rw [SRoute.validate_cidr_of_slash slash parsed validRoute,
        ← SRoute.validate_cidr_of_slash otherSlash otherParsed otherRoute]
      exact List.mem_map_of_mem _ validMember

theorem SRoutes.validate_distinct_slash_networks_two :
    SRoutes.validate ⟨fun _ => none, fun _ _ => none⟩
        [⟨"custom", "10.0.0.0/24", "", ""⟩, ⟨"custom", "10.0.1.0/24", "", ""⟩] =
        .ok [⟨"custom", "10.0.0.0/24", "", ""⟩, ⟨"custom", "10.0.1.0/24", "", ""⟩] ∧
      [(⟨"custom", "10.0.0.0/24", "", ""⟩ : SRoute), ⟨"custom", "10.0.1.0/24", "", ""⟩].Pairwise
        fun first second => ¬ SameSlashNetwork ⟨fun _ => none, fun _ _ => none⟩ first.cidr second.cidr :=
  ⟨rfl, SRoutes.validate_distinct_slash_networks rfl⟩

/-- `SRoutes.Validate` keeps both a bare address and its `/32` spelling. -/
theorem SRoutes.validate_keeps_bare_and_slash (net : NetIPv6) :
    let routes : List SRoute := [⟨"custom", "10.0.0.1", "", ""⟩, ⟨"custom", "10.0.0.1/32", "", ""⟩]
    SRoutes.validate net routes = .ok routes ∧ parseIPTo4 net "10.0.0.1" = some 167772161 ∧
      parseCIDR net "10.0.0.1/32" = .ok (.v4 167772161 32) :=
  ⟨rfl, rfl, rfl⟩

end OneCloud.Compute
