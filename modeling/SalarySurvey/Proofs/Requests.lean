import SalarySurvey.Proofs.Answers
import SalarySurvey.Proofs.Forms
import SalarySurvey.Web.Service

/-!
# Requests for rows

A request for rows names them by the query of its target. The query is read as a form, and the
parameters are answered as they would be without a service in between: the status tells a found
answer from a refusal, and the body has the text of the answer or of the refusal in an object with
one member. A refusal may name any key, and its text is still read back, since a string escapes
what could end it.

Every list of parameters has a form, and with that form as the query, the request is for these
parameters, unless the target is too long.
-/
namespace SalarySurvey.Web

namespace Target

/-- The part of a query in front of a fragment. -/
def beforeFragment (query : String) : String :=
  String.ofList (query.toList.takeWhile (· != '#'))

/-- The text of a target with a path and a query. -/
def withQuery (path query : String) : String := path ++ "?" ++ query

/-- The text of a target that asks for rows. -/
def forRows (query : String) : String := withQuery "/compensation_data" query

/-- No character of a path ends it. -/
theorem ne_of_isPathChar {c : Char} (plain : isPathChar c = true) :
    (c != '?' && c != '#') = true := by
  have question : isPathChar '?' = false := by decide
  have hash : isPathChar '#' = false := by decide
  have notQuestion : c ≠ '?' := fun same => by simp [same, question] at plain
  have notHash : c ≠ '#' := fun same => by simp [same, hash] at plain
  simp [notQuestion, notHash]

/-- A path with a query behind it is accepted exactly when it is not too long and its query has
characters of queries only; a fragment behind the query is dropped. -/
theorem ofText?_withQuery {path query : String} {target : Target}
    (rooted : path.toList.head? = some '/') (plain : path.toList.all isPathChar = true) :
    ofText? (withQuery path query) = some target ↔
      (withQuery path query).utf8ByteSize ≤ 65534 ∧
        (∀ c ∈ (beforeFragment query).toList, isQueryChar c = true) ∧
        target = ⟨path, some (beforeFragment query)⟩ := by
  obtain ⟨rest, starts⟩ := List.head?_eq_some_iff.mp rooted
  have filled : path.toList ≠ [] := by simp [starts]
  have single : ∀ c ∈ path.toList, (c != '?' && c != '#') = true := fun c listed =>
    ne_of_isPathChar (List.all_eq_true.mp plain c listed)
  have text : (withQuery path query).toList = path.toList ++ '?' :: query.toList := by
    simp [withQuery]
  have parts : ofPath? (path.toList ++ '?' :: query.toList) =
      if (beforeFragment query).toList.all isQueryChar then
        some ⟨path, some (beforeFragment query)⟩
      else none := by
    simp [ofPath?, List.takeWhile_append_of_pos single, List.dropWhile_append_of_pos single, plain,
      filled, beforeFragment]
  have whole : ofText? (withQuery path query) =
      if 65534 < (withQuery path query).utf8ByteSize then none
      else ofPath? (path.toList ++ '?' :: query.toList) := by
    rw [ofText?, text, starts]
    simp
  rw [whole, parts]
  constructor
  · intro accepted
    split at accepted
    · cases accepted
    · next short =>
      split at accepted
      · next chars =>
        exact ⟨Nat.not_lt.mp short, List.all_eq_true.mp chars, (Option.some.inj accepted).symm⟩
      · cases accepted
  · rintro ⟨short, chars, rfl⟩
    rw [if_neg (Nat.not_lt.mpr short), if_pos (List.all_eq_true.mpr chars)]

/-- A form is in front of any fragment. -/
theorem beforeFragment_encode (parameters : List (String × String)) :
    beforeFragment (Form.encode parameters) = Form.encode parameters := by
  have kept : ∀ c ∈ (Form.encode parameters).toList, (c != '#') = true := fun c listed =>
    bne_iff_ne.mpr (Form.fits_of_mem_encode listed).2
  rw [beforeFragment, List.takeWhile_eq_self_iff.mpr kept, String.ofList_toList]

/-- The rows of any parameters can be asked for, unless the target is too long. -/
theorem ofText?_forRows_encode {parameters : List (String × String)}
    (short : (forRows (Form.encode parameters)).utf8ByteSize ≤ 65534) :
    ofText? (forRows (Form.encode parameters)) =
      some ⟨"/compensation_data", some (Form.encode parameters)⟩ := by
  rw [forRows, ofText?_withQuery (by decide) (by decide), beforeFragment_encode]
  exact ⟨short, fun c listed => (Form.fits_of_mem_encode listed).1, rfl⟩

end Target

/-- An exact value in an envelope is read back. -/
theorem read?_envelope {content : Json} (exact : content.Exact) :
    Json.read? (envelope content).render.toList = some (.object [("message", content)]) := by
  have whole : (envelope content).Exact := by
    apply Json.Exact.object
    intro member listed
    obtain rfl := List.mem_singleton.mp listed
    exact exact
  rw [Json.render, String.toList_ofList, whole.read?_write, envelope]

/-- The text of a value in an envelope. -/
theorem render_envelope (content : Json) :
    (envelope content).render = "\x7b\"message\":" ++ content.render ++ "\x7d" := by
  have name : Json.quote "message" = "\"message\"".toList := by decide
  apply String.toList_injective
  simp [envelope, Json.render, Json.write, Json.writeMembers, name]

/-- A response delivers the outcome of a query. -/
inductive Delivers (response : Response) : Except Query.Refusal Query.Answer → Prop where
  /-- An answer is sent as the text of its rows. -/
  | answer {found : Query.Answer} (status : response.status = 200)
    (text : response.body = "\x7b\"message\":" ++ found.json.render ++ "\x7d")
    (value : Json.read? response.body.toList = some (.object [("message", found.json)])) :
    Delivers response (.ok found)
  /-- A refusal is sent as its message. -/
  | refusal {refusal : Query.Refusal} (status : response.status = 400)
    (value : Json.read? response.body.toList =
      some (.object [("message", .string refusal.message)])) :
    Delivers response (.error refusal)

/-- What is delivered does not depend on the headers. -/
theorem Delivers.withHeaders {response : Response} {outcome : Except Query.Refusal Query.Answer}
    (delivers : Delivers response outcome) (headers : List Header) :
    Delivers { response with headers := headers } outcome := by
  cases delivers with
  | answer status text value => exact .answer status text value
  | refusal status value => exact .refusal status value

namespace Request

/-- The parts of an accepted request. -/
theorem ofParts?_eq_some {method target : String} {headers : List Header} {request : Request}
    (accepted : ofParts? method target headers = some request) :
    request.method = method ∧ Target.ofText? target = some request.target := by
  rw [ofParts?, Option.bind_eq_bind, Option.bind_eq_some_iff] at accepted
  obtain ⟨found, read, accepted⟩ := accepted
  split at accepted
  · cases accepted
    exact ⟨rfl, read⟩
  · contradiction

/-- A target that is accepted can be read with no headers. -/
theorem ofParts?_get {text : String} {target : Target} (read : Target.ofText? text = some target) :
    ofParts? "GET" text [] = some ⟨"GET", target, []⟩ := by
  have token : isToken "GET" = true := by decide
  rw [ofParts?, read]
  simp [token]

end Request

namespace Service

variable {bytes : List UInt8} {survey : Survey}

/-- The page of rows delivers what the parameters of its query are answered with. -/
theorem delivers_rowsPage (loaded : Survey.ofBytes bytes = .ok survey) (origins : Origins)
    (query : String) :
    Delivers (rowsPage ⟨survey, origins⟩ query).1 (Query.answer survey (Form.decode query)) := by
  cases planned : Query.Plan.ofParameters (Form.decode query) with
  | error refusal =>
    have refused : Query.answer survey (Form.decode query) = .error refusal := by
      rw [Query.answer, planned]
      rfl
    have page : (rowsPage ⟨survey, origins⟩ query).1 =
        jsonResponse 400 (envelope (.string refusal.message)) := by
      rw [rowsPage, planned]
    rw [refused, page]
    exact .refusal rfl (read?_envelope (.string refusal.message))
  | ok plan =>
    have answered : Query.answer survey (Form.decode query) = .ok (plan.answer survey) := by
      rw [Query.answer, planned]
      rfl
    have page : (rowsPage ⟨survey, origins⟩ query).1 =
        jsonResponse 200 (envelope (plan.answer survey).json) := by
      rw [rowsPage, planned]
    rw [answered, page]
    exact .answer rfl (render_envelope _) (read?_envelope (Query.exact_json loaded answered))

/-- Reading the page of rows gives it, but for headers. -/
theorem respond_rows (service : Service) (uptime : Nat) {request : Request} {query : String}
    (get : request.method = "GET")
    (target : request.target = ⟨"/compensation_data", some query⟩) :
    ∃ headers, (service.respond uptime request).1 =
      { (service.rowsPage query).1 with headers := headers } := by
  have page : Page.ofPath? "/compensation_data" = some .rows := by decide
  have read : service.read uptime request = service.rowsPage query := by
    simp [read, get, target, page, Service.page]
  simp [respond, read, get]

/-- A request for rows gets what the parameters of its query are answered with. -/
theorem delivers_respond (loaded : Survey.ofBytes bytes = .ok survey) (origins : Origins)
    (uptime : Nat) {query : String} {headers : List Header} {request : Request}
    (accepted : Request.ofParts? "GET" (Target.forRows query) headers = some request) :
    Delivers (respond ⟨survey, origins⟩ uptime request).1
      (Query.answer survey (Form.decode (Target.beforeFragment query))) := by
  obtain ⟨get, read⟩ := Request.ofParts?_eq_some accepted
  obtain ⟨-, -, target⟩ := (Target.ofText?_withQuery (by decide) (by decide)).mp read
  obtain ⟨headers, responds⟩ := respond_rows ⟨survey, origins⟩ uptime get target
  rw [responds]
  exact (delivers_rowsPage loaded origins _).withHeaders headers

/-- Every accepted request for rows gets what the parameters of its query are answered with, and
every list of parameters can be asked for by its form, unless the target is too long. -/
theorem respond_delivers (loaded : Survey.ofBytes bytes = .ok survey) (origins : Origins)
    (uptime : Nat) :
    (∀ query headers request,
      Request.ofParts? "GET" (Target.forRows query) headers = some request →
        Delivers (respond ⟨survey, origins⟩ uptime request).1
          (Query.answer survey (Form.decode (Target.beforeFragment query)))) ∧
    ∀ parameters,
      Form.decode (Form.encode parameters) = parameters ∧
      ((Target.forRows (Form.encode parameters)).utf8ByteSize ≤ 65534 →
        ∃ request,
          Request.ofParts? "GET" (Target.forRows (Form.encode parameters)) [] = some request ∧
          Delivers (respond ⟨survey, origins⟩ uptime request).1
            (Query.answer survey parameters)) := by
  refine ⟨fun query headers request accepted => delivers_respond loaded origins uptime accepted,
    fun parameters => ⟨Form.decode_encode parameters, fun short => ?_⟩⟩
  have accepted := Request.ofParts?_get (Target.ofText?_forRows_encode short)
  have delivers := delivers_respond loaded origins uptime accepted
  rw [Target.beforeFragment_encode, Form.decode_encode] at delivers
  exact ⟨_, accepted, delivers⟩

/-- A query with a broken escape and a fragment behind it is refused with the text of its first
key. -/
theorem sampleFile_respond_delivers : ∃ survey request,
    Survey.ofBytes Survey.sampleFile = .ok survey ∧
    Request.ofParts? "GET" (Target.forRows "%22%C3%A4%zz[lt]=1+2&&country=US#x") [] =
      some request ∧
    Form.decode (Target.beforeFragment "%22%C3%A4%zz[lt]=1+2&&country=US#x") =
      [("\"ä%zz[lt]", "1 2"), ("country", "US")] ∧
    Delivers (respond ⟨survey, .any⟩ 0 request).1 (.error (.unsupportedKey "\"ä%zz")) := by
  obtain ⟨survey, loaded⟩ := Survey.sampleFile_loads
  have accepted :
      Request.ofParts? "GET" (Target.forRows "%22%C3%A4%zz[lt]=1+2&&country=US#x") [] =
        some ⟨"GET", ⟨"/compensation_data", some "%22%C3%A4%zz[lt]=1+2&&country=US"⟩, []⟩ :=
    Request.ofParts?_get (by decide +kernel)
  have decoded : Form.decode (Target.beforeFragment "%22%C3%A4%zz[lt]=1+2&&country=US#x") =
      [("\"ä%zz[lt]", "1 2"), ("country", "US")] := by
    decide +kernel
  have refused : Query.answer survey [("\"ä%zz[lt]", "1 2"), ("country", "US")] =
      .error (.unsupportedKey "\"ä%zz") := by
    have planned : Query.Plan.ofParameters [("\"ä%zz[lt]", "1 2"), ("country", "US")] =
        .error (.unsupportedKey "\"ä%zz") := by
      decide +kernel
    rw [Query.answer, planned]
    rfl
  have delivers := (respond_delivers loaded .any 0).1 _ _ _ accepted
  rw [decoded, refused] at delivers
  exact ⟨survey, _, loaded, accepted, decoded, delivers⟩

end Service

end SalarySurvey.Web
