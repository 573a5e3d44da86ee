import Provisioning.Json.Reader
import Provisioning.Json.Writer
import Provisioning.Plane.Client
import Provisioning.Text.Basic

/-!
The management plane over the web. A call becomes one request to the address of the object under
its key; the response is taken for an object, or for the reason why there is none. How a request
gets to its server is up to whoever makes the calls.
-/

namespace Provisioning.Remote

/-- What is asked of the object at an address. -/
inductive Method where
  | get
  | put
  | delete
deriving DecidableEq

/-- The method as it stands in a request. -/
def Method.text : Method → String
  | .get => "GET"
  | .put => "PUT"
  | .delete => "DELETE"

/-- How messages name what a method does. -/
def Method.task : Method → String
  | .get => "get"
  | .put => Client.writing
  | .delete => "delete"

/-- A request. An object that is sent is sent as JSON. -/
structure Request where
  method : Method
  address : String
  token : String
  body : Option Json

/-- The value of the header that carries the token. -/
def Request.authorization (r : Request) : String := "Bearer " ++ r.token

/-- A response. -/
structure Response where
  status : Web.Status
  body : String

/-! ### Settings -/

/-- Where the management plane is, and who calls it. -/
structure Settings where
  endpoint : String
  subscription : String
  /-- A token that the caller has been given already. -/
  token : String
deriving DecidableEq

namespace Settings

/-- The endpoint where none is set. -/
def defaultEndpoint : String := "https://management.azure.com"

/-- The variable that sets the endpoint. -/
def endpointVariable : String := "ARM_ENDPOINT"

/-- The variable that sets the subscription. -/
def subscriptionVariable : String := "ARM_SUBSCRIPTION_ID"

/-- The variable that sets the token. -/
def tokenVariable : String := "ARM_ACCESS_TOKEN"

/-- A variable that has to be set. -/
def need (environment : String → Option String) (name : String) : Except ClientError String :=
  match environment name with
  | some value => .ok value
  | none => .error (.settingMissing name)

/-- The settings of an environment. Only the endpoint may be left out. -/
def ofEnvironment (environment : String → Option String) : Except ClientError Settings := do
  let subscription ← need environment subscriptionVariable
  let token ← need environment tokenVariable
  return { endpoint := (environment endpointVariable).getD defaultEndpoint, subscription, token }

/-- The address of the object of a managed type under a key. -/
def address (s : Settings) (Obj : Type) [Managed Obj] (key : NaturalKey) : String :=
  String.ofList (Text.trimEnd '/' s.endpoint.toList)
    ++ "/subscriptions/" ++ s.subscription ++ "/resourceGroups/" ++ key.scope
    ++ "/providers/" ++ Managed.type Obj ++ "/" ++ key.name
    ++ "?api-version=" ++ Managed.apiVersion Obj

end Settings

/-! ### Responses -/

/-- The text of a response that reports an error, without a byte order mark. -/
def errorText (body : String) : String :=
  match body.toList with
  | '\ufeff' :: rest => String.ofList rest
  | _ => body

/-- The response of a request that was carried out, or the reason why it was not. -/
def carriedOut (method : Method) (target : String) :
    Except String Response → Except ClientError Response
  | .error reason => .error (.noResponse method.task target reason)
  | .ok response =>
    if response.status = .notFound then .error (.notFound target)
    else if response.status.isSuccess then .ok response
    else .error (.badStatus method.task target response.status (errorText response.body))

/-- The object in the body of a response. -/
def objectOf {Obj : Type} [Managed Obj] (target : String) (response : Response) :
    Except ClientError Obj :=
  (Json.readAs Managed.decode response.body).mapError (.unreadable target)

/-- What the response to a deletion says. One without a body says that there was no object. -/
def deletedBy (target : String) (response : Response) : Except ClientError Unit :=
  if response.status = .noContent then .error (.notFound target) else .ok ()

/-! ### Calls -/

/-- A way for requests to get to a server. -/
abbrev Network (σ : Type) := Request → σ → Answer σ (Except String Response)

/-- Calls to a management plane over a network. -/
def client {σ : Type} (Obj : Type) [Managed Obj] (settings : Settings) (network : Network σ) :
    Client σ Obj :=
  let exchange (method : Method) (key : NaturalKey) (body : Option Json) (s : σ) :
      Answer σ (Except ClientError Response) :=
    (network ⟨method, settings.address Obj key, settings.token, body⟩ s).map
      (carriedOut method (Managed.describe Obj key))
  { subscription := settings.subscription
    announce key object :=
      ["PUT " ++ Managed.describe Obj key ++ ":\n"
        ++ (Managed.toJson (Managed.scrub object)).pretty]
    get key s := (exchange .get key none s).map
      fun answer => answer.bind (objectOf (Managed.describe Obj key))
    put key object s := (exchange .put key (some (Managed.toJson object)) s).map
      fun answer => answer.bind (objectOf (Managed.describe Obj key))
    delete key s := (exchange .delete key none s).map
      fun answer => answer.bind (deletedBy (Managed.describe Obj key)) }

end Provisioning.Remote
