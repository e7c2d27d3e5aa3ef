import Dialogue.Address.Reader
import Dialogue.Json.Reader
import Dialogue.Summary

/-!
# External calls

What comes back from an external call: a JSON response, or why there is none. The
fetchers here need no network: one answers from a script, the other sends nothing and
tells why not.
-/

namespace Dialogue

/-- Why a call gave no response. -/
inductive FetchError where
  | request (cause : Text)
  | decode (cause : Text)
  | unavailable
  deriving DecidableEq, Repr

/-- The sentence for an error. -/
def FetchError.message : FetchError → Text
  | .request cause => "Request failed: ".toList ++ cause
  | .decode cause => "Response was not valid JSON: ".toList ++ cause
  | .unavailable => "No fetcher configured for external calls".toList

/-- A response, or why there is none. -/
abbrev Response := Except FetchError Json

/-! ## Scripted responses -/

/-- An answer to one call. -/
inductive CannedResponse where
  /-- The body of a response. -/
  | body (json : Text)
  | failure (cause : Text)
  | unavailable
  /-- The call is never answered. -/
  | silence
  deriving DecidableEq, Repr

namespace CannedResponse

/-- What a call gets, if it is answered. -/
def response : CannedResponse → Option Response
  | .body json =>
    match Json.parse json with
    | .ok value => some (.ok value)
    | .error _ => some (.error (.decode "bad body".toList))
  | .failure cause => some (.error (.decode cause))
  | .unavailable => some (.error .unavailable)
  | .silence => none

end CannedResponse

/-! ## Addresses that are refused -/

/-- Whether requests can be sent to the addresses of a scheme. -/
def isWebScheme (scheme : Text) : Bool :=
  scheme = "http".toList || scheme = "https".toList

/-- Why no request is sent to an address. User name and password are not told. -/
def refusal (url : Text) : FetchError :=
  .request <|
    match Address.read url with
    | .error fault => "builder error: ".toList ++ fault.message
    | .ok address =>
      let shown := address.withoutCredentials.print
      if isWebScheme address.scheme then
        "error sending request for url (".toList ++ shown ++ [')']
      else
        "builder error for url (".toList ++ shown ++
          "): URL scheme is not allowed".toList

/-! ## Fetchers -/

/-- Who answers external calls. -/
inductive Fetcher where
  /-- The responses that are left, and the addresses asked for so far. -/
  | script (responses : List CannedResponse) (asked : List Text)
  /-- Sends nothing. -/
  | offline
  deriving DecidableEq, Repr

namespace Fetcher

/-- Answers a call. -/
def fetch (url : Text) : Fetcher → Fetcher × Option Response
  | .script [] asked =>
    (.script [] (asked ++ [url]),
      some (.error (.decode "no response scripted".toList)))
  | .script (r :: responses) asked =>
    (.script responses (asked ++ [url]), r.response)
  | .offline => (.offline, some (.error (refusal url)))

/-- The addresses asked for so far. -/
def asked : Fetcher → List Text
  | .script _ asked => asked
  | .offline => []

end Fetcher

end Dialogue
