import OneCloud.Strconv

/-
This file models `GetAddrPort`, which `Request` calls to name the address and port of a
traced request.
-/

namespace OneCloud.HttpUtils

open GoText Strconv

/-- The `Scheme` and `Host` of the `*url.URL` that `GetAddrPort` reads. -/
structure URL where
  scheme : String
  host : String
  deriving DecidableEq, Repr

/-- An error `GetAddrPort` returns: one of `url.Parse`, one of `strconv.ParseInt`, or the
unknown scheme. -/
inductive AddrPortError where
  | urlError (msg : String)
  | numError (err : NumError)
  | unknownSchema (msg : String)
  deriving DecidableEq, Repr

/-- This is `GetAddrPort`, after `url.Parse` has given `parsed`. -/
def getAddrPort (parsed : Except String URL) : Except AddrPortError (String × Int) :=
  match parsed with
  | .error err => .error (.urlError err)
  | .ok parts =>
      let host := parts.host
      let commaPos := indexByte host ':'
      if 0 < commaPos then
        match parseInt (sliceFrom host (commaPos + 1)) 32 with
        | .error err => .error (.numError err)
        | .ok port => .ok (sliceTo host commaPos, port)
      else
        match parts.scheme with
        | "http" => .ok (parts.host, 80)
        | "https" => .ok (parts.host, 443)
        | scheme => .error (.unknownSchema ("Unknown schema " ++ scheme))

/-- A host with no `:` gets the port of its scheme. -/
theorem getAddrPort_default_port {host : String} (noColon : ':' ∉ host.data) :
    getAddrPort (.ok ⟨"http", host⟩) = .ok (host, 80) ∧
      getAddrPort (.ok ⟨"https", host⟩) = .ok (host, 443) := by
  simp [getAddrPort, indexByte_of_not_mem noColon]

/-- After a name with no `:`, `GetAddrPort` answers what `ParseInt` reads of the rest. -/
theorem getAddrPort_after_name (scheme : String) {hostname : String} (port : String) (named : hostname.data ≠ [])
    (noColon : ':' ∉ hostname.data) :
    getAddrPort (.ok ⟨scheme, hostname ++ ":" ++ port⟩) =
      ((parseInt port 32).mapError .numError).map (Prod.mk hostname) := by
  have host : hostname ++ ":" ++ port = ⟨hostname.data ++ ':' :: port.data⟩ := String.ext (by simp)
  have found : indexByte ⟨hostname.data ++ ':' :: port.data⟩ ':' = hostname.data.length :=
    indexByte_append noColon
  have positive : (0 : Int) < hostname.data.length := by
    have := List.length_pos.mpr named
    omega
  simp only [getAddrPort, host, found, positive, if_true, sliceFrom_append, sliceTo_append]
  cases parseInt port 32 <;> rfl

/-- A name, `:` and a decimal port below `2^31` give the name and the port. -/
theorem getAddrPort_given_port (scheme : String) {hostname port : String} (named : hostname.data ≠ [])
    (noColon : ':' ∉ hostname.data) (nonempty : port.data ≠ []) (decimal : port.data.all Char.isDigit = true)
    (small : decimalValue port.data < 2 ^ 31) :
    getAddrPort (.ok ⟨scheme, hostname ++ ":" ++ port⟩) = .ok (hostname, decimalValue port.data) := by
  rw [getAddrPort_after_name scheme port named noColon, parseInt_of_digits 32 nonempty decimal small]
  rfl

theorem getAddrPort_given_port_example :
    getAddrPort (.ok ⟨"http", "example.com" ++ ":" ++ "8080"⟩) = .ok ("example.com", 8080) :=
  getAddrPort_given_port "http" (by decide) (by decide) (by decide) (by decide) (by decide)

/-- After a name, `GetAddrPort` returns exactly the ports `ParseInt` reads in 32 bits. -/
theorem getAddrPort_port_iff (scheme : String) {hostname port : String} (named : hostname.data ≠ [])
    (noColon : ':' ∉ hostname.data) (v : Int) :
    getAddrPort (.ok ⟨scheme, hostname ++ ":" ++ port⟩) = .ok (hostname, v) ↔
      (splitSign port.data).2 ≠ [] ∧ (splitSign port.data).2.all Char.isDigit ∧
        v = (if (splitSign port.data).1 then -(decimalValue (splitSign port.data).2 : Int)
          else decimalValue (splitSign port.data).2) ∧
        -2 ^ 31 ≤ v ∧ v < 2 ^ 31 := by
  rw [← parseInt_eq_ok_iff port (by decide : 0 < 32) v, getAddrPort_after_name scheme port named noColon]
  cases parseInt port 32 <;> simp [Except.map, Except.mapError]

theorem getAddrPort_port_iff_negative :
    ("example.com" : String).data ≠ [] ∧ ':' ∉ ("example.com" : String).data ∧
      getAddrPort (.ok ⟨"http", "example.com" ++ ":" ++ "-1"⟩) = .ok ("example.com", -1) :=
  ⟨by decide, by decide, (getAddrPort_port_iff "http" (by decide) (by decide) (-1)).mpr (by decide)⟩

/-- A bracketed IPv6 literal fails, since its first `:` lies inside the brackets. -/
theorem getAddrPort_rejects_ipv6_literal (scheme literal portSuffix : String)
    (colon : ':' ∈ literal.data) :
    ∃ err, getAddrPort (.ok ⟨scheme, "[" ++ literal ++ "]" ++ portSuffix⟩) = .error (.numError err) := by
  obtain ⟨front, back, absent, split⟩ := exists_split_first colon
  have host : ("[" ++ literal ++ "]" ++ portSuffix : String) =
      ⟨('[' :: front) ++ ':' :: (back ++ ']' :: portSuffix.data)⟩ :=
    String.ext (by simp [split])
  have found : indexByte ⟨('[' :: front) ++ ':' :: (back ++ ']' :: portSuffix.data)⟩ ':' =
      ((front.length + 1 : Nat) : Int) :=
    indexByte_append (by simpa using absent)
  have port := sliceFrom_append ('[' :: front) (back ++ ']' :: portSuffix.data) ':'
  rw [List.length_cons] at port
  obtain ⟨err, failed⟩ := @parseInt_of_not_digit ⟨back ++ ']' :: portSuffix.data⟩ ']' 32 (by simp) (by decide)
    (by decide) (by decide)
  refine ⟨⟨"ParseInt", ⟨back ++ ']' :: portSuffix.data⟩, err⟩, ?_⟩
  simp only [getAddrPort, host, found, show (0 : Int) < ((front.length + 1 : Nat) : Int) by omega, if_true,
    port, failed]

theorem getAddrPort_rejects_ipv6_loopback :
    ':' ∈ ("::1" : String).data ∧
      ∃ err, getAddrPort (.ok ⟨"http", "[" ++ "::1" ++ "]" ++ ":8080"⟩) = .error (.numError err) :=
  ⟨by decide, getAddrPort_rejects_ipv6_literal "http" "::1" ":8080" (by decide)⟩

/-- A port past `2^32 - 1` fails with `ErrRange` before the `]` behind it. -/
example : getAddrPort (.ok ⟨"http", "[1:4294967296]:80"⟩) =
    .error (.numError ⟨"ParseInt", "4294967296]:80", .errRange⟩) := by
  rfl

end OneCloud.HttpUtils
