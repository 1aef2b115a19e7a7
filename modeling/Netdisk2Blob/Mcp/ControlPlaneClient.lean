import Netdisk2Blob.Library.Text
import Netdisk2Blob.Library.Traces

/-!
# The Client of the Control Plane

The tool server reads the state of the gateway with GET requests and changes it with POST
requests. A request is sent again after a timeout, an unavailable gateway or a status of 502 to
504, if it may be sent again and retries are left.

## Contents

- `buildRequest`, `sendRequest`, `getJson`, `postJson`
- `runs_sendFrom`: the attempts of one request
- `control_calls_iff`: what the two calls send, and what they return
-/

namespace Netdisk2Blob.Mcp

open Library Text Library.Program

/-! ## Section 1: Requests -/

inductive TransportMethod where
  | get
  | post
  deriving DecidableEq, Repr

structure TransportRequest where
  method : TransportMethod
  url : String
  headers : List (String × String)
  timeoutMs : Nat
  body : Option Bytes
  retryable : Bool
  deriving DecidableEq, Repr

structure TransportResponse where
  statusCode : Nat
  body : Bytes
  deriving DecidableEq, Repr

inductive TransportError where
  | timeout
  | unavailable (message : String)
  | other (message : String)
  deriving DecidableEq, Repr

inductive ServerError where
  | badRequest (message : String)
  | unauthorized (message : String)
  | notFound (message : String)
  | upstreamUnavailable (message : String)
  | timeout (message : String)
  | notImplemented (message : String)
  | internal (message : String)
  deriving DecidableEq, Repr

inductive AdminApiErrorCode where
  | unauthorized
  | forbidden
  | badRequest
  | badGateway
  | notImplemented
  | notFound
  | serviceUnavailable
  | internal
  deriving DecidableEq, Repr

structure AdminApiErrorResponse where
  error : String
  code : Option AdminApiErrorCode
  deriving DecidableEq, Repr

def adminApiVersion : String := "2026-05-26"

abbrev TransportAnswer (_ : TransportRequest) : Type :=
  Except TransportError TransportResponse

abbrev ClientProgram (α : Type) := Program TransportRequest TransportAnswer α

/-- The settings of the client; the JSON parser of error responses is a parameter. -/
structure HttpControlPlaneClient where
  baseUrl : String
  apiKey : Option String
  timeoutMs : Nat
  maxRetries : Nat
  parseError : Bytes → Option AdminApiErrorResponse

def isRetryableHttpStatus (statusCode : Nat) : Bool :=
  decide (statusCode = 502 ∨ statusCode = 503 ∨ statusCode = 504)

namespace HttpControlPlaneClient

variable (client : HttpControlPlaneClient)

def adminHeaders (includeJsonContentType : Bool) : List (String × String) :=
  ("x-admin-api-version", adminApiVersion) ::
    (client.apiKey.map (fun apiKey => ("x-api-key", apiKey))).toList ++
      (if includeJsonContentType then [("content-type", "application/json")] else [])

def buildRequest (method : TransportMethod) (path : String) (body : Option Bytes)
    (retryable : Bool) : TransportRequest where
  method := method
  url := String.ofList (client.baseUrl.toList.rdropWhile (fun c => decide (c = '/'))) ++ "/" ++
    trimStartMatches '/' path
  headers := client.adminHeaders body.isSome
  timeoutMs := client.timeoutMs
  body := body
  retryable := retryable

def mapHttpError (statusCode : Nat) (body : Bytes) : ServerError :=
  let payload := client.parseError body
  let message := ((payload.map (fun item => trim item.error)).filter
    (fun item => !item.isEmpty)).getD "control API request failed"
  if statusCode = 400 then .badRequest message
  else if statusCode = 401 ∨ statusCode = 403 then .unauthorized message
  else if statusCode = 404 then .notFound message
  else if statusCode = 501 ∧ payload.bind (·.code) = some .notImplemented then
    .notImplemented message
  else if 500 ≤ statusCode ∧ statusCode ≤ 599 then .upstreamUnavailable message
  else .internal s!"unexpected control API status {statusCode}"

/-- What an answer is returned as. -/
def outcome : Except TransportError TransportResponse → Except ServerError TransportResponse
  | .ok response =>
    if 200 ≤ response.statusCode ∧ response.statusCode ≤ 299 then .ok response
    else .error (client.mapHttpError response.statusCode response.body)
  | .error .timeout => .error (.timeout "control API timeout")
  | .error (.unavailable message) =>
    .error (.upstreamUnavailable s!"control API unavailable: {message}")
  | .error (.other message) => .error (.internal s!"control API transport error: {message}")

/-- The answers behind which a request is sent again; no status of them is a success. -/
def isTransient : Except TransportError TransportResponse → Bool
  | .ok response => isRetryableHttpStatus response.statusCode
  | .error .timeout => true
  | .error (.unavailable _) => true
  | .error (.other _) => false

/-- The loop of `send_request` with the retries that are left. -/
def sendFrom (request : TransportRequest) :
    Nat → ClientProgram (Except ServerError TransportResponse)
  | 0 => .request request (fun answer => .pure (client.outcome answer))
  | left + 1 => .request request (fun answer =>
    if request.retryable ∧ isTransient answer then sendFrom request left
    else .pure (client.outcome answer))

def sendRequest (request : TransportRequest) :
    ClientProgram (Except ServerError TransportResponse) :=
  client.sendFrom request client.maxRetries

variable {α : Type}

def parseJson (parse : Bytes → Except String α) (label : String) (response : TransportResponse) :
    Except ServerError α :=
  (parse response.body).mapError (fun error => .badRequest s!"invalid {label} json: {error}")

def getJson (parse : Bytes → Except String α) (path label : String) :
    ClientProgram (Except ServerError α) :=
  (client.sendRequest (client.buildRequest .get path none true)).andThen
    (fun response => .pure (parseJson parse label response))

/-- `post_json_value` with a payload, `post_empty_json` without one. -/
def postJson (parse : Bytes → Except String α) (path : String) (payload : Option Bytes)
    (label : String) : ClientProgram (Except ServerError α) :=
  (client.sendRequest (client.buildRequest .post path payload false)).andThen
    (fun response => .pure (parseJson parse label response))

/-! ## Section 2: Attempts -/

/-- The attempts of a request: all but the last met a transient failure, and so did the last one
only if no retry was left. -/
structure Attempts (retries : Nat)
    (failures : List (Except TransportError TransportResponse))
    (last : Except TransportError TransportResponse) : Prop where
  within : failures.length ≤ retries
  transient : ∀ answer ∈ failures, isTransient answer = true
  exhausted : isTransient last = true → failures.length = retries

variable {client} {request : TransportRequest}

/-- **Run lemma.** A request that may be sent again. -/
theorem runs_sendFrom (hretryable : request.retryable = true) (retries : Nat)
    {trace : List (Event TransportAnswer)} {result : Except ServerError TransportResponse} :
    Runs (client.sendFrom request retries) trace result ↔
      ∃ failures last, Attempts retries failures last ∧
        trace = (failures ++ [last]).map (fun answer => ⟨request, answer⟩) ∧
        result = client.outcome last := by
  induction retries generalizing trace with
  | zero =>
      rw [sendFrom, runs_request]
      constructor
      · rintro ⟨answer, rest, rfl, h⟩
        obtain ⟨rfl, rfl⟩ := h
        exact ⟨[], answer, ⟨le_refl _, fun _ h => absurd h List.not_mem_nil, fun _ => rfl⟩, rfl,
          rfl⟩
      · rintro ⟨failures, last, hattempts, rfl, rfl⟩
        rw [List.eq_nil_of_length_eq_zero (Nat.le_zero.mp hattempts.within)]
        exact ⟨last, [], rfl, rfl, rfl⟩
  | succ left ih =>
      rw [sendFrom, runs_request]
      constructor
      · rintro ⟨answer, rest, rfl, h⟩
        split_ifs at h with hagain
        · obtain ⟨failures, last, ⟨hwithin, htransient, hexhausted⟩, rfl, rfl⟩ := ih.mp h
          refine ⟨answer :: failures, last, ⟨Nat.succ_le_succ hwithin, ?_, ?_⟩, rfl, rfl⟩
          · exact List.forall_mem_cons.mpr ⟨hagain.2, htransient⟩
          · exact fun hlast => congrArg Nat.succ (hexhausted hlast)
        · obtain ⟨rfl, rfl⟩ := h
          refine ⟨[], answer, ⟨Nat.zero_le _, fun _ h => absurd h List.not_mem_nil, ?_⟩, rfl, rfl⟩
          exact fun hlast => absurd ⟨hretryable, hlast⟩ hagain
      · rintro ⟨failures, last, ⟨hwithin, htransient, hexhausted⟩, rfl, rfl⟩
        cases failures with
        | nil =>
            refine ⟨last, [], rfl, ?_⟩
            rw [if_neg (fun hagain => ?_)]
            · exact ⟨rfl, rfl⟩
            · cases hexhausted hagain.2
        | cons answer failures =>
            obtain ⟨hanswer, hfailures⟩ := List.forall_mem_cons.mp htransient
            refine ⟨answer, _, rfl, ?_⟩
            rw [if_pos ⟨hretryable, hanswer⟩]
            refine ih.mpr ⟨failures, last, ⟨Nat.le_of_succ_le_succ hwithin, hfailures, ?_⟩, rfl, rfl⟩
            exact fun hlast => Nat.succ.inj (hexhausted hlast)

/-- A request that may not be sent again is sent once. -/
theorem runs_sendFrom_once (hfinal : request.retryable = false) (retries : Nat)
    {trace : List (Event TransportAnswer)} {result : Except ServerError TransportResponse} :
    Runs (client.sendFrom request retries) trace result ↔
      ∃ answer, trace = [⟨request, answer⟩] ∧ result = client.outcome answer := by
  have hloop : client.sendFrom request retries =
      .request request (fun answer => .pure (client.outcome answer)) := by
    cases retries with
    | zero => rfl
    | succ left =>
        rw [sendFrom]
        simp [hfinal]
  rw [hloop, runs_request]
  constructor
  · rintro ⟨answer, rest, rfl, rfl, rfl⟩
    exact ⟨answer, rfl, rfl⟩
  · rintro ⟨answer, rfl, rfl⟩
    exact ⟨answer, [], rfl, rfl, rfl⟩

/-- What follows the response sends nothing. -/
theorem runs_andThen_parse {program : ClientProgram (Except ServerError TransportResponse)}
    {parse : Bytes → Except String α} {label : String} {trace : List (Event TransportAnswer)}
    {result : Except ServerError α} :
    Runs (program.andThen (fun response => .pure (parseJson parse label response))) trace result ↔
      ∃ response, Runs program trace response ∧ result = response.bind (parseJson parse label) := by
  rw [runs_andThen]
  constructor
  · rintro (⟨error, h, rfl⟩ | ⟨response, first, rest, rfl, h, rfl, rfl⟩)
    · exact ⟨.error error, h, rfl⟩
    · exact ⟨.ok response, by rwa [List.append_nil], rfl⟩
  · rintro ⟨response | response, h, rfl⟩
    · exact Or.inl ⟨response, h, rfl⟩
    · exact Or.inr ⟨response, trace, [], (List.append_nil _).symm, h, rfl, rfl⟩

/-- **Reads are repeated, changes are sent once.** Whatever the gateway answers: a GET is sent at
most once more than there are retries, the same every time, and goes on only behind transient
failures; a POST is sent exactly once. The last answer decides the result. -/
theorem control_calls_iff (client : HttpControlPlaneClient) (parse : Bytes → Except String α)
    (path label : String) (payload : Option Bytes) (trace : List (Event TransportAnswer))
    (result : Except ServerError α) :
    (Runs (client.getJson parse path label) trace result ↔
      ∃ failures last, Attempts client.maxRetries failures last ∧
        trace = (failures ++ [last]).map
          (fun answer => ⟨client.buildRequest .get path none true, answer⟩) ∧
        result = (client.outcome last).bind (parseJson parse label)) ∧
    (Runs (client.postJson parse path payload label) trace result ↔
      ∃ answer, trace = [⟨client.buildRequest .post path payload false, answer⟩] ∧
        result = (client.outcome answer).bind (parseJson parse label)) := by
  constructor
  · rw [getJson, runs_andThen_parse]
    constructor
    · rintro ⟨response, h, rfl⟩
      obtain ⟨failures, last, hattempts, htrace, rfl⟩ := (runs_sendFrom rfl _).mp h
      exact ⟨failures, last, hattempts, htrace, rfl⟩
    · rintro ⟨failures, last, hattempts, htrace, rfl⟩
      exact ⟨_, (runs_sendFrom rfl _).mpr ⟨failures, last, hattempts, htrace, rfl⟩, rfl⟩
  · rw [postJson, runs_andThen_parse]
    constructor
    · rintro ⟨response, h, rfl⟩
      obtain ⟨answer, htrace, rfl⟩ := (runs_sendFrom_once rfl _).mp h
      exact ⟨answer, htrace, rfl⟩
    · rintro ⟨answer, htrace, rfl⟩
      exact ⟨_, (runs_sendFrom_once rfl _).mpr ⟨answer, htrace, rfl⟩, rfl⟩

end HttpControlPlaneClient

end Netdisk2Blob.Mcp
