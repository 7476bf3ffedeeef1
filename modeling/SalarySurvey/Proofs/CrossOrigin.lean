import SalarySurvey.Command
import SalarySurvey.Proofs.Utf8

/-!
# Other sites

Which sites a service lets read its answers, by the list of origins in its settings. Only an empty
list lets every site in. A list with an entry lets in the origins that it has entries for, byte for
byte, and an entry that no request can send lets in nobody: leaving such entries out of the list
never turns it into the empty one, even if none is left.
-/
namespace SalarySurvey.Web

open Text.Utf8 (encode)

/-- A byte that can stand in the value of a header. -/
def IsValueByte (byte : UInt8) : Prop :=
  (0x20 ≤ byte ∨ byte = 0x09) ∧ byte ≠ 0x7F

/-- An origin that can stand in a header. -/
def Sendable (origin : String) : Prop :=
  ∀ byte ∈ encode origin.toList, IsValueByte byte

/-- The values that some headers have for a name. -/
def valuesFor (name : String) (headers : List Header) : List String :=
  (headers.filter fun header => header.1 = name).map Prod.snd

/-- The origins that a response lets in. -/
def Response.admitted (response : Response) : List String :=
  valuesFor "access-control-allow-origin" response.headers

/-- What services let in whose settings list some origins. -/
structure Admits (origins : List String) (allowed : Origins) : Prop where
  /-- Without origins in the settings every response lets every site in. -/
  unconfigured : origins = [] → ∀ survey uptime request,
    (Service.respond ⟨survey, allowed⟩ uptime request).1.admitted = ["*"]
  /-- Otherwise a response lets a site in exactly when the bytes of the origin of the request are
  those of an entry that can stand in a header. -/
  admits_iff : origins ≠ [] → ∀ survey uptime request,
    (Service.respond ⟨survey, allowed⟩ uptime request).1.admitted ≠ [] ↔
      ∃ origin ∈ origins, Sendable origin ∧
        request.header? "origin" = some (encode origin.toList)
  /-- What is let in then is the origin of the request and nothing else. -/
  echoes : origins ≠ [] → ∀ survey uptime request,
    ∀ value ∈ (Service.respond ⟨survey, allowed⟩ uptime request).1.admitted,
      (Service.respond ⟨survey, allowed⟩ uptime request).1.admitted = [value] ∧
        request.header? "origin" = some (encode value.toList)
  /-- If no entry can stand in a header, nothing is let in. -/
  closed : origins ≠ [] → (∀ origin ∈ origins, ¬Sendable origin) → ∀ survey uptime request,
    (Service.respond ⟨survey, allowed⟩ uptime request).1.admitted = []

section Values

variable {name : String} {headers : List Header}

@[simp] theorem valuesFor_append (others : List Header) :
    valuesFor name (headers ++ others) = valuesFor name headers ++ valuesFor name others := by
  simp [valuesFor]

theorem valuesFor_eq_nil (apart : ∀ header ∈ headers, header.1 ≠ name) :
    valuesFor name headers = [] := by
  simpa [valuesFor] using apart

end Values

theorem isValueByte_iff {byte : UInt8} :
    IsValueByte byte ↔ (0x20 ≤ byte.toNat ∨ byte.toNat = 0x09) ∧ byte.toNat ≠ 0x7F := by
  rw [IsValueByte, UInt8.le_iff_toNat_le, ne_eq, ← UInt8.toNat_inj, ← UInt8.toNat_inj]
  rfl

/-- A character can stand in the value of a header exactly when all its bytes can. Those of a
character outside ASCII always can. -/
theorem forall_mem_utf8EncodeChar (c : Char) :
    (∀ byte ∈ String.utf8EncodeChar c, IsValueByte byte) ↔
      (0x20 ≤ c.toNat ∨ c = '\t') ∧ c.toNat ≠ 0x7F := by
  by_cases ascii : c.toNat < 0x80
  · have tab : c = '\t' ↔ c.toNat = 0x09 := by
      rw [← Char.toNat_inj]
      rfl
    have value : (UInt8.ofNat c.toNat).toNat = c.toNat := Text.Utf8.toNat_ofNat (by omega)
    rw [Text.Utf8.utf8EncodeChar_ascii ascii, List.forall_mem_singleton, isValueByte_iff, value,
      tab]
  · have wide : 0x80 ≤ c.toNat := Nat.le_of_not_lt ascii
    refine iff_of_true (fun byte mem => ?_) ⟨.inl (by omega), by omega⟩
    have high := Text.Utf8.le_of_mem_utf8EncodeChar wide mem
    exact isValueByte_iff.mpr ⟨.inl (by omega), by omega⟩

/-- The origins that are kept are those that can stand in a header. -/
theorem isHeaderValue_iff (origin : String) : isHeaderValue origin = true ↔ Sendable origin := by
  have byChar : Sendable origin ↔
      ∀ c ∈ origin.toList, ∀ byte ∈ String.utf8EncodeChar c, IsValueByte byte := by
    simp only [Sendable, encode, List.mem_flatMap]
    constructor
    · intro all c mem byte inside
      exact all byte ⟨c, mem, inside⟩
    · rintro all byte ⟨c, mem, inside⟩
      exact all c mem byte inside
  rw [byChar, isHeaderValue, List.all_eq_true]
  simp only [forall_mem_utf8EncodeChar, Bool.and_eq_true, Bool.or_eq_true, decide_eq_true_eq,
    beq_iff_eq, bne_iff_ne]

namespace Origins

variable {origins : List String} {allowed : Origins}

/-- Only the star is refused. -/
theorem ofSettings?_eq_none : ofSettings? origins = none ↔ "*" ∈ origins := by
  rw [ofSettings?]
  split_ifs with empty star
  · simp [List.isEmpty_iff.mp empty]
  · simpa using star
  · simpa using star

/-- The emptiness of the list is looked at before its entries. -/
theorem ofSettings?_cases (allows : ofSettings? origins = some allowed) :
    origins = [] ∧ allowed = any ∨
      origins ≠ [] ∧ allowed = listed (origins.filter isHeaderValue) := by
  rw [ofSettings?] at allows
  split_ifs at allows with empty star
  · exact .inl ⟨List.isEmpty_iff.mp empty, (Option.some.inj allows).symm⟩
  · exact .inr ⟨mt List.isEmpty_iff.mpr empty, (Option.some.inj allows).symm⟩

/-- A list lets in the first entry with the bytes of the origin of the request. -/
theorem valuesFor_allowOrigin_listed (request : Request) :
    valuesFor "access-control-allow-origin" ((listed origins).allowOrigin request) =
      (origins.find? fun origin =>
        request.header? "origin" = some (encode origin.toList)).toList := by
  rw [allowOrigin]
  cases request.header? "origin" with
  | none => simp [valuesFor]
  | some sent =>
    simp only [Option.some.injEq, eq_comm (a := sent)]
    cases origins.find? fun origin => encode origin.toList = sent <;> simp [valuesFor]

end Origins

namespace Service

variable (service : Service) (uptime : Nat) (request : Request)

/-- The headers of a page say what its body is. -/
theorem eq_of_mem_page (query : String) (page : Page) {header : Header}
    (mem : header ∈ (service.page uptime query page).1.headers) :
    header = ("content-type", "application/json") := by
  cases page with
  | rows =>
    rw [Service.page, rowsPage] at mem
    split at mem <;> simpa [jsonResponse] using mem
  | columns => simpa [Service.page, columnsPage, jsonResponse] using mem
  | live => simp [Service.page] at mem
  | health => simpa [Service.page, healthPage, jsonResponse] using mem

/-- Reading a page adds no header that lets an origin in. -/
theorem valuesFor_read :
    valuesFor "access-control-allow-origin" (service.read uptime request).1.headers = [] := by
  apply valuesFor_eq_nil
  intro header mem
  rw [read] at mem
  split at mem
  · simp at mem
  · split_ifs at mem with reads headless
    · rw [eq_of_mem_page service uptime _ _ mem]
      decide
    · rw [eq_of_mem_page service uptime _ _ mem]
      decide
    · rw [List.mem_singleton.mp mem]
      decide

/-- Nor does answering a preflight. -/
theorem valuesFor_preflight :
    valuesFor "access-control-allow-origin" (service.preflight request).headers = [] := by
  have allows : valuesFor "access-control-allow-origin" service.origins.preflight = [] := by
    cases service.origins with
    | any => decide
    | listed origins => rfl
  rw [preflight]
  dsimp only
  rw [valuesFor_append, allows, List.append_nil]
  split_ifs <;> decide

/-- What a response lets in is up to the header for the origin of the request, on every path and
with every method. -/
theorem admitted_respond :
    (service.respond uptime request).1.admitted =
      valuesFor "access-control-allow-origin" (service.origins.allowOrigin request) := by
  have exposes : valuesFor "access-control-allow-origin" service.origins.expose = [] := by
    cases service.origins with
    | any => decide
    | listed origins => rfl
  rw [Response.admitted, respond]
  split_ifs with preflight
  · rw [valuesFor_append, valuesFor_preflight, List.nil_append]
  · rw [valuesFor_append, valuesFor_append, valuesFor_read, exposes, List.nil_append,
      List.append_nil]

end Service

section Listed

variable {origins : List String} {survey : Survey} {uptime : Nat} {request : Request}

/-- With origins in the settings, what is let in is the first entry that can stand in a header and
has the bytes of the origin of the request. -/
theorem admitted_listed :
    (Service.respond ⟨survey, .listed (origins.filter isHeaderValue)⟩ uptime request).1.admitted =
      ((origins.filter isHeaderValue).find? fun origin =>
        request.header? "origin" = some (encode origin.toList)).toList := by
  rw [Service.admitted_respond, Origins.valuesFor_allowOrigin_listed]

theorem admitted_listed_ne_nil_iff :
    (Service.respond ⟨survey, .listed (origins.filter isHeaderValue)⟩ uptime
      request).1.admitted ≠ [] ↔
      ∃ origin ∈ origins, Sendable origin ∧
        request.header? "origin" = some (encode origin.toList) := by
  rw [admitted_listed, ne_eq, Option.toList_eq_nil_iff, ← ne_eq, ← Option.isSome_iff_ne_none,
    List.find?_isSome]
  simp only [List.mem_filter, isHeaderValue_iff, decide_eq_true_eq, and_assoc]

/-- At most one origin is let in, and no other than that of the request. -/
theorem eq_of_mem_admitted_listed {value : String}
    (mem : value ∈ (Service.respond ⟨survey, .listed (origins.filter isHeaderValue)⟩ uptime
      request).1.admitted) :
    (Service.respond ⟨survey, .listed (origins.filter isHeaderValue)⟩ uptime
      request).1.admitted = [value] ∧
      request.header? "origin" = some (encode value.toList) := by
  rw [admitted_listed] at mem ⊢
  rw [Option.mem_toList] at mem
  have sent := List.find?_some mem
  rw [mem]
  exact ⟨rfl, of_decide_eq_true sent⟩

end Listed

/-- Services let in what their settings say. -/
theorem admits_of_ofSettings? {origins : List String} {allowed : Origins}
    (allows : Origins.ofSettings? origins = some allowed) : Admits origins allowed := by
  obtain ⟨rfl, rfl⟩ | ⟨configured, rfl⟩ := Origins.ofSettings?_cases allows
  · exact
      { unconfigured := fun _ survey uptime request => by rw [Service.admitted_respond]; rfl
        admits_iff := fun configured => absurd rfl configured
        echoes := fun configured => absurd rfl configured
        closed := fun configured => absurd rfl configured }
  · refine ⟨fun empty => absurd empty configured,
      fun _ survey uptime request => admitted_listed_ne_nil_iff,
      fun _ survey uptime request value => eq_of_mem_admitted_listed, ?_⟩
    intro _ unsendable survey uptime request
    by_contra lets
    obtain ⟨origin, mem, sendable, -⟩ := admitted_listed_ne_nil_iff.mp lets
    exact unsendable origin mem sendable

/-- A list of origins is refused exactly if it has the star, and a service with any other list lets
in what the list says. -/
theorem ofSettings?_admits (origins : List String) :
    (Origins.ofSettings? origins = none ↔ "*" ∈ origins) ∧
      ∀ allowed, Origins.ofSettings? origins = some allowed → Admits origins allowed :=
  ⟨Origins.ofSettings?_eq_none, fun _ => admits_of_ofSettings?⟩

/-- An entry with a control character does not keep the other one out, on any path; alone it keeps
every site out, also one that sends just its bytes. -/
theorem ofSettings?_admits_control :
    let survey : Survey := ⟨Vector.replicate Column.count "", []⟩
    let preflight (origin : String) : Request :=
      ⟨"OPTIONS", ⟨"/nowhere", none⟩, [("origin", encode origin.toList)]⟩
    Origins.ofSettings? ["https://b.example\x01", "https://a.example"] =
        some (.listed ["https://a.example"]) ∧
      (Service.respond ⟨survey, .listed ["https://a.example"]⟩ 0
        (preflight "https://a.example")).1.admitted ≠ [] ∧
      Origins.ofSettings? ["https://b.example\x01"] = some (.listed []) ∧
      (Service.respond ⟨survey, .listed []⟩ 0
        (preflight "https://b.example\x01")).1.admitted = [] := by
  intro survey preflight
  have one : Origins.ofSettings? ["https://b.example\x01", "https://a.example"] =
      some (.listed ["https://a.example"]) := by
    decide +kernel
  have none_left : Origins.ofSettings? ["https://b.example\x01"] = some (.listed []) := by
    decide +kernel
  have lets := (ofSettings?_admits ["https://b.example\x01", "https://a.example"]).2 _ one
  have closes := (ofSettings?_admits ["https://b.example\x01"]).2 _ none_left
  have sendable : Sendable "https://a.example" := (isHeaderValue_iff _).mp (by decide +kernel)
  have control : ∀ origin ∈ ["https://b.example\x01"], ¬Sendable origin := by
    intro origin mem
    rw [List.mem_singleton.mp mem, ← isHeaderValue_iff]
    decide +kernel
  exact ⟨one, (lets.admits_iff (by decide) _ _ _).mpr ⟨_, by decide, sendable, rfl⟩, none_left,
    closes.closed (by decide) control _ _ _⟩

end SalarySurvey.Web

namespace SalarySurvey.Command

variable {surroundings : Surroundings Id} {settings : Settings} {survey : Survey}

/-- A run that has loaded its survey breaks off exactly if the star is among its origins. -/
theorem startShown_brokeOff_iff (display : Display)
    (loaded : Survey.ofFile settings.dataset.path (surroundings.openFile settings.dataset.path) =
      .ok survey) :
    (∃ journal, startShown surroundings settings display = .brokeOff display journal) ↔
      "*" ∈ settings.server.corsOrigins := by
  rw [← Web.Origins.ofSettings?_eq_none]
  simp only [startShown, bind, pure, loaded]
  cases Web.Origins.ofSettings? settings.server.corsOrigins with
  | none => exact iff_of_true ⟨_, rfl⟩ rfl
  | some allowed => cases surroundings.listen settings.server.address <;> simp

/-- A run that serves lets in what the origins in its settings say. -/
theorem admits_of_serving {service : Web.Service} {display shown : Display} {journal : Journal}
    (serves : startShown surroundings settings display = .serving service shown journal) :
    Web.Admits settings.server.corsOrigins service.origins := by
  simp only [startShown, bind, pure] at serves
  split at serves
  · cases serves
  · split at serves
    · cases serves
    · next allowed allows =>
      split at serves <;> cases serves
      exact Web.admits_of_ofSettings? allows

end SalarySurvey.Command
