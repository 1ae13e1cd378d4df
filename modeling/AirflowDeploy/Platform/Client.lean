import AirflowDeploy.Http.Charset
import AirflowDeploy.Http.Reason
import AirflowDeploy.Json.Printer
import AirflowDeploy.Json.Reader
import AirflowDeploy.Machine
import AirflowDeploy.Platform.ClientError
import AirflowDeploy.Platform.Record
import AirflowDeploy.Url.Parser

/-!
# The platform client

The calls of the platform's web service, with a bearer token.
-/
namespace AirflowDeploy

namespace Client

def insecureStart : List Char := "http://".toList

def secureStart : List Char := "https://".toList

/-- A domain without the slashes at its end. -/
def withoutSlashes (domain : String) : List Char :=
  (domain.toList.reverse.dropWhile (· == '/')).reverse

/-- The root of the service for a domain. A domain with a scheme is the service's own address,
any other one has the service at `api.`. -/
def baseUrl (domain : String) : Except ClientError Url :=
  let domain := withoutSlashes domain
  let address :=
    if (Text.afterPrefix? insecureStart domain).isSome ||
        (Text.afterPrefix? secureStart domain).isSome then domain
    else secureStart ++ "api.".toList ++ domain
  let secure := (Text.afterPrefix? secureStart address).isSome
  let rest := (address.dropWhile fun c => !Url.isColon c).tail
  (Url.readAfterScheme secure (rest ++ "/v1/".toList)).mapError .url

/-- The address of a resource below the root. Each segment may be any text. -/
def resource (base : Url) (segments : List String) : Url :=
  base.join (segments.map Url.encodeSegment)

/-- The releases of a channel. -/
def releasesUrl (base : Url) (channel : String) : Url :=
  { resource base ["runtime-releases"] with query := some ("channel=".toList ++ channel.toList) }

end Client

structure Client where
  /-- The root of the service. -/
  base : Url
  token : String
  deriving DecidableEq, Repr

namespace Client

def ofDomain (domain token : String) : Except ClientError Client :=
  (baseUrl domain).map fun base => ⟨base, token⟩

def mediaType : String := "application/json"

def userAgent : String := "dagship/0.1.0"

def authorization (c : Client) : String := "Bearer " ++ c.token

def request (c : Client) (url : Url) (body : Option Json) : Http.Request where
  method := if body.isSome then .post else .get
  url := url
  headers :=
    (if body.isSome then [("content-type", mediaType)] else []) ++
      [("authorization", c.authorization), ("accept", mediaType), ("user-agent", userAgent)]
  body := body

/-- The member `message` of a record. -/
def messageMember? (j : Json) : Option String :=
  match j.fields? ["message"] with
  | some [message] => Json.required? Json.text? message
  | _ => none

/-- What a refusal says: the message in its body, the body itself, or the reason of its status. -/
def refusalText (body : List Char) (status : Nat) : String :=
  match (Json.read? body).bind messageMember? with
  | some message => message
  | none =>
    let text := Text.trim body
    if text.isEmpty then (Http.reason? status).getD "unknown error" else String.ofList text

def noReply (url : Url) : String := "error sending request for url (" ++ url.render ++ ")"

def badReply : String := "error decoding response body"

/-- The value in a reply. -/
def readReply (decode : Json → Option α) (url : Url) (reply : Option Http.Reply) :
    Except ClientError α :=
  match reply.bind Http.Reply.understood with
  | none => .error (.request (noReply url))
  | some reply =>
    if reply.isSuccess then
      match (Json.readBytes? reply.body).bind decode with
      | some a => .ok a
      | none => .error (.unreadable badReply)
    else
      let body := (Http.Charset.ofContentType reply.contentType).decode reply.body
      .error (.api reply.status (refusalText body reply.status))

/-- One call. A token that no header can hold is not sent. -/
def call (c : Client) (url : Url) (body : Option Json) (decode : Json → Option α) :
    Dialogue machine (Except Fault α) :=
  if Http.isHeaderText c.authorization then
    (fun reply => (readReply decode url reply).mapError ClientError.toFault) <$>
      Machine.ask (.web (c.request url body))
  else return .error (ClientError.request "builder error").toFault

def listWorkspaces (c : Client) : Dialogue machine (Except Fault (List Workspace)) :=
  c.call (resource c.base ["workspaces"]) none (Json.list? Workspace.ofJson?)

def listDeployments (c : Client) (workspaceId : String) :
    Dialogue machine (Except Fault (List Deployment)) :=
  c.call (resource c.base ["workspaces", workspaceId, "deployments"]) none
    (Json.list? Deployment.ofJson?)

def listReleases (c : Client) (channel : String) :
    Dialogue machine (Except Fault (List RuntimeRelease)) :=
  c.call (releasesUrl c.base channel) none (Json.list? RuntimeRelease.ofJson?)

def listPublicReleases (c : Client) : Dialogue machine (Except Fault (List RuntimeRelease)) :=
  c.listReleases "public"

def listInternalReleases (c : Client) : Dialogue machine (Except Fault (List RuntimeRelease)) :=
  c.listReleases "internal"

def createImage (c : Client) (creation : ImageCreation) : Dialogue machine (Except Fault Image) :=
  c.call (resource c.base ["deployments", creation.deploymentId, "images"]) (some creation.toJson)
    Image.ofJson?

def deployImage (c : Client) (rollout : ImageRollout) : Dialogue machine (Except Fault Image) :=
  c.call (resource c.base ["images", rollout.imageId, "deploy"]) (some rollout.toJson)
    Image.ofJson?

end Client

end AirflowDeploy
