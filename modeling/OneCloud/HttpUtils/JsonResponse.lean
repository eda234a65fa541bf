import Mathlib.Data.List.Basic
import OneCloud.Strconv

/-
This file models how the HTTP helpers of `httputils` turn a response into headers, a JSON
body and an error: `ParseJSONResponse`, its buffered twin `ParseJSONResponseUseBufio`,
`JsonClient.Send` and `JSONClientError.ParseErrorFromJsonResponse`.
-/

namespace OneCloud.HttpUtils

/-- A JSON value of `jsonutils`. -/
inductive JSONObject where
  | null
  | bool (value : Bool)
  | int (value : Int)
  | string (value : String)
  | array (items : List JSONObject)
  | dict (entries : List (String × JSONObject))

/-- This is `GetMap`: the entries of a dictionary, and an error for any other value. -/
def JSONObject.getMap : JSONObject → Option (List (String × JSONObject))
  | .dict entries => some entries
  | _ => none

/-- A `JSONClientError`, with the fields the helpers read and write. -/
structure JSONClientError where
  code : Int
  class_ : String
  details : String
  deriving DecidableEq, Repr

/-- What the helpers use of the external `jsonutils` library. -/
structure JsonUtils where
  parse : String → Except String JSONObject
  unmarshal : JSONObject → JSONClientError → JSONClientError × Option String
  getString : JSONObject → String → Option String
  getAnyString : JSONObject → List String → String
  toString : JSONObject → String

/-- An error a helper returns: a `*JSONClientError` or a wrapped or formatted one. -/
inductive GoError where
  | jsonClientError (ce : JSONClientError)
  | plain (msg : String)
  deriving DecidableEq, Repr

/-- A response of the transport, with the body as `ioutil.ReadAll` reads it. -/
structure HttpResponse where
  statusCode : Int
  status : String
  header : List (String × String)
  contentLength : Int
  body : Except String String

/-- `resp.Header.Get("Location")`. -/
def HttpResponse.location (resp : HttpResponse) : String :=
  (resp.header.lookup "Location").getD ""

/-- What a helper returns: headers, JSON body and error, each possibly `nil`. -/
structure Reply where
  header : Option (List (String × String))
  body : Option JSONObject
  err : Option GoError

/-- The error a transport failure becomes. -/
def transportError (err : String) : Reply :=
  ⟨none, none, some (.jsonClientError ⟨499, "", err⟩)⟩

/-- The body parsed when it starts with `{`, and `nil` otherwise. -/
def parsedBody (json : JsonUtils) (rbody : String) : Option JSONObject :=
  if rbody ≠ "" ∧ rbody.front = '{' then (json.parse rbody).toOption else none

theorem parse_of_parsedBody {json : JsonUtils} {rbody : String} {jrbody : JSONObject}
    (found : parsedBody json rbody = some jrbody) : json.parse rbody = .ok jrbody := by
  unfold parsedBody at found
  split_ifs at found
  cases parsed : json.parse rbody <;> simp_all [Except.toOption]

/-- The keys `ParseJSONResponse` reads details and a class from. -/
def detailKeys : List String := ["message", "detail", "details", "error_msg"]
def classKeys : List String := ["title", "type", "error_code"]

/-- The error `ParseJSONResponse` reads from `jrbody2`, with the code decoded by `strconv.Atoi`. -/
def errorFromValue (json : JsonUtils) (statusCode : Int) (jrbody2 : JSONObject) (ce : JSONClientError) :
    JSONClientError :=
  let ecode := (json.getString jrbody2 "code").getD ""
  let ce := if ecode ≠ "" then
      match Strconv.atoi ecode with
      | .ok code => { ce with code }
      | .error _ => { ce with class_ := ecode }
    else ce
  let ce := if ce.code = 0 then { ce with code := statusCode } else ce
  let edetail := json.getAnyString jrbody2 detailKeys
  let ce := if edetail ≠ "" then { ce with details := edetail } else ce
  let eclass := json.getAnyString jrbody2 classKeys
  if eclass ≠ "" then { ce with class_ := eclass } else ce

/-- The `else` branch of `ParseJSONResponse`; `none` is a method call on `nil`. -/
def decodeErrorBody (json : JsonUtils) (resp : HttpResponse) (rbody : String) :
    Option JSONObject → Option Reply
  | none =>
      some ⟨none, none, some (.jsonClientError
        ⟨resp.statusCode, "", if rbody ≠ "" then rbody else resp.status⟩)⟩
  | some jrbody =>
      let ce := (json.unmarshal jrbody ⟨0, "", ""⟩).1
      if ce.class_ ≠ "" ∧ 400 ≤ ce.code ∧ ce.details ≠ "" then some ⟨none, none, some (.jsonClientError ce)⟩
      else
        match jrbody.getMap with
        | none =>
            let (ce, err) := json.unmarshal jrbody ce
            let ce := match err with
              | some msg => { ce with details := msg }
              | none => ce
            some ⟨none, none, some (.jsonClientError ce)⟩
        | some entries =>
            let jrbody2 : Option JSONObject :=
              if 1 < entries.length then some (.dict entries) else entries.head?.map Prod.snd
            match jrbody2 with
            | none => none
            | some jrbody2 =>
                some ⟨none, none, some (.jsonClientError (errorFromValue json resp.statusCode jrbody2 ce))⟩

/-- What both parsers do once the body is read. -/
def replyFromBody (json : JsonUtils) (resp : HttpResponse) (rbody : String) : Option Reply :=
  let jrbody := parsedBody json rbody
  if resp.statusCode < 300 then some ⟨some resp.header, jrbody, none⟩
  else if resp.statusCode < 400 then
    some ⟨none, none, some (.jsonClientError ⟨resp.statusCode, "redirect", resp.location⟩)⟩
  else decodeErrorBody json resp rbody jrbody

/-- This is `ParseJSONResponse`; `none` is a panic. -/
def parseJSONResponse (json : JsonUtils) (err : Option String) (resp : HttpResponse) : Option Reply :=
  match err with
  | some err => some (transportError err)
  | none =>
      match resp.body with
      | .error readErr => some ⟨none, none, some (.plain ("Fail to read body: " ++ readErr))⟩
      | .ok rbody => replyFromBody json resp rbody

/-- This is `ParseJSONResponseUseBufio`, whose read into `make([]byte, 0)` sees no byte. -/
def parseJSONResponseUseBufio (json : JsonUtils) (err : Option String) (resp : HttpResponse) :
    Option Reply :=
  match err with
  | some err => some (transportError err)
  | none =>
      let rbody : String := ""
      let n : Int := rbody.length
      if n ≠ resp.contentLength then some ⟨none, none, some (.plain "error read ContentLength")⟩
      else replyFromBody json resp rbody

/-- This is `JSONClientError.ParseErrorFromJsonResponse` on the error `ce`. -/
def JSONClientError.parseErrorFromJsonResponse (json : JsonUtils) (ce : JSONClientError)
    (statusCode : Int) (body : JSONObject) : Option GoError :=
  let (ce, err) := json.unmarshal body ce
  match err with
  | some msg => some (.plain ("body.Unmarshal(" ++ json.toString body ++ "): " ++ msg))
  | none =>
      if ce.code ≠ 0 ∨ ce.class_ ≠ "" ∨ ce.class_ ≠ "" ∨ ce.details ≠ "" then
        some (.jsonClientError (if ce.code = 0 then { ce with code := statusCode } else ce))
      else none

/-- This is `JsonClient.Send` after `Request`, with the error decoder `response`. -/
def jsonClientSend (json : JsonUtils) (response : Int → JSONObject → Option GoError)
    (request : Except String HttpResponse) : Reply :=
  match request with
  | .error err => transportError err
  | .ok resp =>
      match resp.body with
      | .error readErr =>
          ⟨some resp.header, none, some (.jsonClientError ⟨resp.statusCode, "", "Fail to read body: " ++ readErr⟩)⟩
      | .ok rbody =>
          let jrbody : Except String JSONObject :=
            if rbody ≠ "" ∧ rbody.front = '{' then json.parse rbody else .ok (.dict [])
          match jrbody with
          | .error parseErr =>
              ⟨some resp.header, none, some (.jsonClientError
                ⟨resp.statusCode, "", "jsonutils.Parse(" ++ rbody ++ ") error: " ++ parseErr⟩)⟩
          | .ok jrbody =>
              if resp.statusCode < 300 then ⟨some resp.header, some jrbody, none⟩
              else if resp.statusCode < 400 then
                ⟨some resp.header, none, some (.jsonClientError ⟨resp.statusCode, "redirect", resp.location⟩)⟩
              else ⟨some resp.header, some jrbody, response resp.statusCode jrbody⟩

/-- A `jsonutils` that parses `{}` to the empty dictionary and finds nothing. -/
def emptyObjectJson : JsonUtils :=
  ⟨fun body => if body = "{}" then .ok (.dict []) else .error "invalid json", fun _ ce => (ce, none),
    fun _ _ => none, fun _ _ => "", fun _ => "{}"⟩

section Replies

variable {json : JsonUtils}

/-- Past the success and redirect statuses, a decoded error body is a `*JSONClientError`. -/
theorem decodeErrorBody_err {resp : HttpResponse} {rbody : String} {jrbody : Option JSONObject}
    {reply : Reply} (decoded : decodeErrorBody json resp rbody jrbody = some reply) :
    ∃ ce, reply = ⟨none, none, some (.jsonClientError ce)⟩ := by
  unfold decodeErrorBody at decoded
  split at decoded
  · cases decoded
    exact ⟨_, rfl⟩
  dsimp only at decoded
  split_ifs at decoded
  · cases decoded
    exact ⟨_, rfl⟩
  split at decoded
  · cases decoded
    exact ⟨_, rfl⟩
  split at decoded <;> cases decoded
  exact ⟨_, rfl⟩

/-- A body that was read gives a success, a redirect or a `*JSONClientError`. -/
theorem replyFromBody_err {resp : HttpResponse} {rbody : String} {reply : Reply}
    (replied : replyFromBody json resp rbody = some reply) :
    reply.err = none ∨ ∃ ce, reply.err = some (.jsonClientError ce) := by
  unfold replyFromBody at replied
  split_ifs at replied
  · cases replied
    exact .inl rfl
  · cases replied
    exact .inr ⟨_, rfl⟩
  · obtain ⟨ce, rfl⟩ := decodeErrorBody_err replied
    exact .inr ⟨ce, rfl⟩

/-- On a transport error the two parsers agree. -/
theorem parseJSONResponseUseBufio_transportError (err : String) (resp : HttpResponse) :
    parseJSONResponseUseBufio json (some err) resp = parseJSONResponse json (some err) resp := rfl

/-- On an empty body declared empty the two parsers agree. -/
theorem parseJSONResponseUseBufio_empty {resp : HttpResponse} (empty : resp.body = .ok "")
    (declared : resp.contentLength = 0) :
    parseJSONResponseUseBufio json none resp = parseJSONResponse json none resp := by
  simp [parseJSONResponseUseBufio, parseJSONResponse, empty, declared]

/-- The buffered parser fails with `error read ContentLength` on every non-empty body. -/
theorem parseJSONResponseUseBufio_rejects_read_body (json : JsonUtils) {resp : HttpResponse} {rbody : String}
    (read : resp.body = .ok rbody) (declared : resp.contentLength = rbody.length) (nonempty : 0 < rbody.length) :
    parseJSONResponseUseBufio json none resp = some ⟨none, none, some (.plain "error read ContentLength")⟩ ∧
      ∀ reply, parseJSONResponse json none resp = some reply → ∀ msg, reply.err ≠ some (.plain msg) := by
  have positive : (0 : Int) ≠ resp.contentLength := by
    rw [declared]
    omega
  refine ⟨by simp [parseJSONResponseUseBufio, positive], fun reply replied msg plain => ?_⟩
  simp only [parseJSONResponse, read] at replied
  rcases replyFromBody_err replied with none_ | ⟨ce, clientError⟩
  · rw [none_] at plain
    cases plain
  · rw [clientError] at plain
    cases plain

theorem parseJSONResponseUseBufio_rejects_emptyObject :
    ((⟨200, "200 OK", [], 2, .ok "{}"⟩ : HttpResponse).body = .ok "{}" ∧
      (⟨200, "200 OK", [], 2, .ok "{}"⟩ : HttpResponse).contentLength = ("{}" : String).length ∧
      0 < ("{}" : String).length) ∧
    parseJSONResponseUseBufio emptyObjectJson none ⟨200, "200 OK", [], 2, .ok "{}"⟩ =
      some ⟨none, none, some (.plain "error read ContentLength")⟩ :=
  ⟨⟨rfl, rfl, by decide⟩, (parseJSONResponseUseBufio_rejects_read_body emptyObjectJson rfl rfl (by decide)).1⟩

/-- The code read from an error value is never zero for a non-zero status. -/
theorem errorFromValue_code_ne_zero (json : JsonUtils) {statusCode : Int} (jrbody2 : JSONObject)
    (ce : JSONClientError) (status : statusCode ≠ 0) : (errorFromValue json statusCode jrbody2 ce).code ≠ 0 := by
  simp only [errorFromValue, apply_ite JSONClientError.code, ite_self]
  exact fun zero => by split_ifs at zero <;> contradiction

/-- `ParseJSONResponse` answers every error status with a non-zero-coded `*JSONClientError`. -/
theorem parseJSONResponse_error_status_code (json : JsonUtils)
    (dictionaries : ∀ rbody jrbody, json.parse rbody = .ok jrbody → (jrbody.getMap).isSome)
    {resp : HttpResponse} {rbody : String} {reply : Reply} (read : resp.body = .ok rbody)
    (errorStatus : 400 ≤ resp.statusCode) (replied : parseJSONResponse json none resp = some reply) :
    ∃ ce, reply = ⟨none, none, some (.jsonClientError ce)⟩ ∧ ce.code ≠ 0 := by
  simp only [parseJSONResponse, read, replyFromBody, show ¬resp.statusCode < 300 by omega,
    show ¬resp.statusCode < 400 by omega, if_false, decodeErrorBody] at replied
  split at replied
  · cases replied
    exact ⟨_, rfl, by simp; omega⟩
  rename_i jrbody found
  split_ifs at replied with early
  · cases replied
    exact ⟨_, rfl, by omega⟩
  split at replied
  · rename_i noMap
    simpa [noMap] using dictionaries rbody jrbody (parse_of_parsedBody found)
  split at replied
  · cases replied
  · cases replied
    exact ⟨_, rfl, errorFromValue_code_ne_zero json _ _ (by omega)⟩

theorem parseJSONResponse_error_status_code_emptyObject :
    (∀ rbody jrbody, emptyObjectJson.parse rbody = .ok jrbody → (jrbody.getMap).isSome) ∧
      (400 : Int) ≤ 404 ∧
      parseJSONResponse emptyObjectJson none ⟨404, "404 Not Found", [], 0, .ok ""⟩ =
        some ⟨none, none, some (.jsonClientError ⟨404, "", "404 Not Found"⟩)⟩ ∧
      ∃ ce, (⟨none, none, some (.jsonClientError ⟨404, "", "404 Not Found"⟩)⟩ : Reply) =
        ⟨none, none, some (.jsonClientError ce)⟩ ∧ ce.code ≠ 0 := by
  have dictionaries : ∀ rbody jrbody, emptyObjectJson.parse rbody = .ok jrbody → (jrbody.getMap).isSome := by
    intro rbody jrbody parsed
    simp only [emptyObjectJson] at parsed
    split_ifs at parsed
    cases parsed
    rfl
  have replied : parseJSONResponse emptyObjectJson none ⟨404, "404 Not Found", [], 0, .ok ""⟩ =
      some ⟨none, none, some (.jsonClientError ⟨404, "", "404 Not Found"⟩)⟩ := by
    simp [parseJSONResponse, replyFromBody, parsedBody, decodeErrorBody]
  exact ⟨dictionaries, by decide, replied,
    parseJSONResponse_error_status_code emptyObjectJson dictionaries rfl (by decide) replied⟩

/-- An empty-object error body makes `ParseJSONResponse` panic in `GetString`. -/
theorem parseJSONResponse_panics_on_empty_object (json : JsonUtils) {resp : HttpResponse} {rbody : String}
    (read : resp.body = .ok rbody) (object : rbody ≠ "" ∧ rbody.front = '{')
    (parsed : json.parse rbody = .ok (.dict [])) (errorStatus : 400 ≤ resp.statusCode)
    (unfilled : (json.unmarshal (.dict []) ⟨0, "", ""⟩).1.class_ = "") :
    parseJSONResponse json none resp = none := by
  simp [parseJSONResponse, read, replyFromBody, parsedBody, object, parsed, Except.toOption,
    show ¬resp.statusCode < 300 by omega, show ¬resp.statusCode < 400 by omega, decodeErrorBody, unfilled,
    JSONObject.getMap]

theorem parseJSONResponse_panics_on_emptyObject :
    ("{}" ≠ "" ∧ ("{}" : String).front = '{') ∧ emptyObjectJson.parse "{}" = .ok (.dict []) ∧
      (400 : Int) ≤ 404 ∧ (emptyObjectJson.unmarshal (.dict []) ⟨0, "", ""⟩).1.class_ = "" ∧
      parseJSONResponse emptyObjectJson none ⟨404, "404 Not Found", [], 2, .ok "{}"⟩ = none :=
  ⟨⟨by decide, by decide⟩, rfl, by decide, rfl,
    parseJSONResponse_panics_on_empty_object emptyObjectJson rfl ⟨by decide, by decide⟩ rfl (by decide) rfl⟩

end Replies

section Send

variable (json : JsonUtils)

/-- A fresh `*JSONClientError` as the decoder of `JsonClient.Send`. -/
def freshClientError (json : JsonUtils) : Int → JSONObject → Option GoError :=
  JSONClientError.parseErrorFromJsonResponse json ⟨0, "", ""⟩

/-- Below 300 `Send` returns no error, unless the body starts with `{` and does not parse. -/
theorem jsonClientSend_success (response : Int → JSONObject → Option GoError) {resp : HttpResponse}
    {rbody : String} (read : resp.body = .ok rbody) (success : resp.statusCode < 300)
    (parses : rbody ≠ "" ∧ rbody.front = '{' → ∃ jrbody, json.parse rbody = .ok jrbody) :
    (jsonClientSend json response (.ok resp)).err = none := by
  simp only [jsonClientSend, read]
  by_cases object : rbody ≠ "" ∧ rbody.front = '{'
  · obtain ⟨jrbody, parsed⟩ := parses object
    simp [object, parsed, success]
  · simp [object, success]

/-- From 300 to 399 `Send` returns the redirect error, unless the body fails. -/
theorem jsonClientSend_redirect (response : Int → JSONObject → Option GoError) {resp : HttpResponse}
    {rbody : String} (read : resp.body = .ok rbody) (redirect : 300 ≤ resp.statusCode ∧ resp.statusCode < 400)
    (parses : rbody ≠ "" ∧ rbody.front = '{' → ∃ jrbody, json.parse rbody = .ok jrbody) :
    (jsonClientSend json response (.ok resp)).err =
      some (.jsonClientError ⟨resp.statusCode, "redirect", resp.location⟩) := by
  have notSuccess : ¬resp.statusCode < 300 := by omega
  simp only [jsonClientSend, read]
  by_cases object : rbody ≠ "" ∧ rbody.front = '{'
  · obtain ⟨jrbody, parsed⟩ := parses object
    simp [object, parsed, redirect.2, notSuccess]
  · simp [object, redirect.2, notSuccess]

/-- From 400 on, a body not starting with `{` gives a fresh decoder no error. -/
theorem jsonClientSend_error_page_no_error {resp : HttpResponse} {rbody : String}
    (read : resp.body = .ok rbody) (notObject : ¬(rbody ≠ "" ∧ rbody.front = '{'))
    (errorStatus : 400 ≤ resp.statusCode)
    (unfilled : json.unmarshal (.dict []) ⟨0, "", ""⟩ = (⟨0, "", ""⟩, none)) :
    (jsonClientSend json (freshClientError json) (.ok resp)).err = none := by
  simp [jsonClientSend, read, notObject, show ¬resp.statusCode < 300 by omega,
    show ¬resp.statusCode < 400 by omega, freshClientError, JSONClientError.parseErrorFromJsonResponse, unfilled]

theorem jsonClientSend_error_page_no_error_html :
    (⟨502, "502 Bad Gateway", [], 13, .ok "<html></html>"⟩ : HttpResponse).body = .ok "<html></html>" ∧
      ¬("<html></html>" ≠ "" ∧ ("<html></html>" : String).front = '{') ∧ (400 : Int) ≤ 502 ∧
      emptyObjectJson.unmarshal (.dict []) ⟨0, "", ""⟩ = (⟨0, "", ""⟩, none) ∧
      (jsonClientSend emptyObjectJson (freshClientError emptyObjectJson)
        (.ok ⟨502, "502 Bad Gateway", [], 13, .ok "<html></html>"⟩)).err = none :=
  ⟨rfl, by decide, by decide, rfl, jsonClientSend_error_page_no_error emptyObjectJson rfl (by decide) (by decide) rfl⟩

/-- From 400 on, a fresh decoder reports an error exactly when `Unmarshal` fails or fills. -/
theorem jsonClientSend_error_status {resp : HttpResponse} {rbody : String} {jrbody : JSONObject}
    (read : resp.body = .ok rbody) (errorStatus : 400 ≤ resp.statusCode)
    (decoded : (if rbody ≠ "" ∧ rbody.front = '{' then json.parse rbody else .ok (.dict [])) = .ok jrbody) :
    (jsonClientSend json (freshClientError json) (.ok resp)).err = none ↔
      (json.unmarshal jrbody ⟨0, "", ""⟩).2 = none ∧ (json.unmarshal jrbody ⟨0, "", ""⟩).1 = ⟨0, "", ""⟩ := by
  simp only [jsonClientSend, read, decoded, show ¬resp.statusCode < 300 by omega,
    show ¬resp.statusCode < 400 by omega, if_false, freshClientError, JSONClientError.parseErrorFromJsonResponse]
  rcases unmarshalled : json.unmarshal jrbody ⟨0, "", ""⟩ with ⟨⟨code, class_, details⟩, _ | msg⟩ <;>
    simp [unmarshalled, JSONClientError.mk.injEq]

end Send

end OneCloud.HttpUtils
