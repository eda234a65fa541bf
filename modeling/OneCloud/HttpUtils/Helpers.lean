import OneCloud.HttpUtils.JsonResponse
import Mathlib.Data.List.DropRight

/-
This file models the other helpers of `httputils` that the clients share: `ParseResponse`,
which returns the raw body, the error accessors `ErrorCode`, `ErrorMsg` and
`JSONClientError.Cause`, and `JoinPath`.
-/

namespace OneCloud.HttpUtils

/-! ### The raw parser and the error accessors -/

/-- What `ParseResponse` returns: headers, raw body and error, each possibly `nil`. -/
structure RawReply where
  header : Option (List (String × String))
  body : Option String
  err : Option GoError

/-- This is `ParseResponse`. -/
def parseResponse (err : Option String) (resp : HttpResponse) : RawReply :=
  match err with
  | some err => ⟨none, none, some (.jsonClientError ⟨499, "", err⟩)⟩
  | none =>
      match resp.body with
      | .error readErr => ⟨none, none, some (.plain ("Fail to read body: " ++ readErr))⟩
      | .ok rbody =>
          if resp.statusCode < 300 then ⟨some resp.header, some rbody, none⟩
          else if resp.statusCode < 400 then
            ⟨none, none, some (.jsonClientError ⟨resp.statusCode, "redirect", resp.location⟩)⟩
          else ⟨none, none, some (.jsonClientError ⟨resp.statusCode, "", if rbody ≠ "" then rbody else resp.status⟩)⟩

/-- The cause `errors.Cause` finds for an error: `errors.Error(class)`, `ErrServer`,
`ErrClient` or `ErrUnclassified`. -/
inductive ErrorCause where
  | named (class_ : String)
  | errServer
  | errClient
  | errUnclassified
  deriving DecidableEq, Repr

/-- This is `JSONClientError.Cause`. -/
def JSONClientError.cause (err : JSONClientError) : ErrorCause :=
  if 0 < err.class_.length then .named err.class_
  else if 500 ≤ err.code then .errServer
  else if 400 ≤ err.code then .errClient
  else .errUnclassified

/-- This is `ErrorCode`; `none` is a `nil` error. -/
def errorCode : Option GoError → Int
  | none => 0
  | some (.jsonClientError je) => je.code
  | some (.plain _) => -1

/-- This is `ErrorMsg`; the `Error()` of a plain error is its text. -/
def errorMsg : Option GoError → String
  | none => ""
  | some (.jsonClientError je) => je.details
  | some (.plain msg) => msg

/-- `ParseJSONResponse` refines `ParseResponse`, except on an error status with a JSON object body. -/
theorem parseJSONResponse_of_parseResponse (json : JsonUtils) (err : Option String) (resp : HttpResponse)
    (undecoded : ∀ rbody, resp.body = .ok rbody → 400 ≤ resp.statusCode → parsedBody json rbody = none) :
    parseJSONResponse json err resp =
      some ⟨(parseResponse err resp).header, (parseResponse err resp).body.bind (parsedBody json),
        (parseResponse err resp).err⟩ := by
  cases err with
  | some err => rfl
  | none =>
      cases read : resp.body with
      | error readErr => simp [parseJSONResponse, parseResponse, read]
      | ok rbody =>
          simp only [parseJSONResponse, parseResponse, read, replyFromBody]
          by_cases success : resp.statusCode < 300
          · simp only [if_pos success]
            rfl
          by_cases redirect : resp.statusCode < 400
          · simp only [if_neg success, if_pos redirect]
            rfl
          · simp only [if_neg success, if_neg redirect, undecoded rbody read (by omega)]
            rfl

theorem parseJSONResponse_of_parseResponse_notFound :
    let resp : HttpResponse := ⟨404, "404 Not Found", [], 9, .ok "not found"⟩
    (∀ rbody, resp.body = .ok rbody → 400 ≤ resp.statusCode → parsedBody emptyObjectJson rbody = none) ∧
      parseJSONResponse emptyObjectJson none resp =
        some ⟨(parseResponse none resp).header, (parseResponse none resp).body.bind (parsedBody emptyObjectJson),
          (parseResponse none resp).err⟩ := by
  intro resp
  have undecoded : ∀ rbody, resp.body = .ok rbody → 400 ≤ resp.statusCode →
      parsedBody emptyObjectJson rbody = none := by
    rintro rbody ⟨⟩ -
    rfl
  exact ⟨undecoded, parseJSONResponse_of_parseResponse emptyObjectJson none resp undecoded⟩

/-! ### `JoinPath` -/

/-- `strings.TrimLeft(s, cutset)`. -/
def trimLeft (s cutset : String) : String := ⟨s.data.dropWhile (cutset.data.contains ·)⟩

/-- `strings.TrimRight(s, cutset)`. -/
def trimRight (s cutset : String) : String := ⟨s.data.rdropWhile (cutset.data.contains ·)⟩

/-- This is `JoinPath`. -/
def joinPath (ep path : String) : String :=
  trimRight ep "/" ++ "/" ++ trimLeft path "/"

section Trim

variable {α : Type} (p : α → Bool)

/-! Trimming both ends of a list, as `TrimLeft` and `TrimRight` trim a text. -/

theorem rdropWhile_append (l m : List α) :
    (l ++ m).rdropWhile p = if (m.rdropWhile p).isEmpty then l.rdropWhile p else l ++ m.rdropWhile p := by
  by_cases empty : m.reverse.dropWhile p = [] <;>
    simp [List.rdropWhile, List.dropWhile_append, empty, List.isEmpty_iff]

/-- Trimming the end keeps a first element that is not trimmed. -/
theorem rdropWhile_cons_of_neg {a : α} (kept : ¬p a) (l : List α) : ∃ rest, (a :: l).rdropWhile p = a :: rest := by
  rw [← List.singleton_append, rdropWhile_append]
  split
  · exact ⟨[], by rw [List.rdropWhile_singleton, if_neg kept]⟩
  · exact ⟨_, rfl⟩

/-- The two trims commute. -/
theorem dropWhile_rdropWhile (l : List α) : (l.rdropWhile p).dropWhile p = (l.dropWhile p).rdropWhile p := by
  by_cases all : ∀ a ∈ l, p a
  · rw [List.rdropWhile_eq_nil_iff.mpr all, List.dropWhile_eq_nil_iff.mpr all]
    rfl
  push_neg at all
  obtain ⟨a, member, kept⟩ := all
  have inRest : a ∈ l.dropWhile p := by
    rw [← List.takeWhile_append_dropWhile p l, List.mem_append] at member
    exact member.resolve_left fun taken => kept (List.mem_takeWhile_imp taken)
  have nonempty : (l.dropWhile p).rdropWhile p ≠ [] := fun empty =>
    kept (List.rdropWhile_eq_nil_iff.mp empty a inRest)
  conv_lhs => rw [← List.takeWhile_append_dropWhile p l]
  rw [rdropWhile_append, if_neg (by simpa [List.isEmpty_iff] using nonempty), List.dropWhile_append_of_pos fun b taken => List.mem_takeWhile_imp taken]
  cases rest : l.dropWhile p with
  | nil => exact absurd (rest ▸ inRest) (List.not_mem_nil a)
  | cons b more =>
      have first : ¬p b := by
        simpa [rest] using List.head_dropWhile_not p l (by simp [rest])
      obtain ⟨trimmed, same⟩ := rdropWhile_cons_of_neg p first more
      rw [same, List.dropWhile_cons_of_neg first]

end Trim

/-- `JoinPath` puts exactly one `/` between the trimmed endpoint and the trimmed path. -/
theorem joinPath_data (ep path : String) :
    (joinPath ep path).data =
      ep.data.rdropWhile (· == '/') ++ '/' :: path.data.dropWhile (· == '/') := by
  have slash : ("/".data.contains ·) = (· == '/') := by
    funext c
    show List.elem c ['/'] = (c == '/')
    cases same : c == '/' <;> simp [List.elem, same]
  simp only [joinPath, trimRight, trimLeft, slash, String.data_append]
  rw [List.append_assoc, List.singleton_append]

/-- A path starting with `/` keeps one slash after trimming, unless only slashes follow. -/
theorem rdropWhile_slash_cons (rest : List Char) :
    ('/' :: rest).rdropWhile (· == '/') =
      if (rest.rdropWhile (· == '/')).isEmpty then [] else '/' :: rest.rdropWhile (· == '/') := by
  rw [← List.singleton_append, rdropWhile_append, List.rdropWhile_singleton]
  rfl

/-- Nested `JoinPath` calls give one URL whichever way they are grouped. -/
theorem joinPath_assoc (a b c : String) : joinPath (joinPath a b) c = joinPath a (joinPath b c) := by
  apply String.ext
  simp only [joinPath_data]
  rw [rdropWhile_append, rdropWhile_slash_cons, List.dropWhile_append, dropWhile_rdropWhile,
    List.dropWhile_cons_of_pos rfl, List.dropWhile_idempotent, List.rdropWhile_idempotent]
  by_cases empty : ((b.data.dropWhile (· == '/')).rdropWhile (· == '/')).isEmpty <;> simp [empty]

end OneCloud.HttpUtils
