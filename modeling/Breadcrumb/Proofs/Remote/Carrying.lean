import Breadcrumb.Proofs.Base64.RoundTrip
import Breadcrumb.Proofs.Json.RoundTrip
import Breadcrumb.Remote

namespace Breadcrumb.Remote

variable {client : Client}

def Mode.name : Mode → Text
  | .gfm => "gfm".toList
  | .readme => "markdown".toList

/-- What the service has to find: the text, the mode, and the name of the project if it has one and the
text is part of its discussion. -/
def fields (client : Client) (mode : Mode) (markdown : Text) : List (Text × Json) :=
  [("text".toList, .str markdown), ("mode".toList, .str mode.name)] ++
    if mode = .gfm ∧ client.project ≠ [] then [("context".toList, .str client.project)] else []

/-- The body is in ASCII and is read as just these fields; there are credentials exactly if both parts
are given, and then these are what they stand for. -/
structure Carries (client : Client) (mode : Mode) (markdown : Text) (asked : Request) : Prop where
  ascii : Text.IsAscii asked.body
  body : Json.read asked.body = .ok (.obj (fields client mode markdown))
  authorized : (∃ value, ("authorization".toList, value) ∈ asked.headers) ↔
    client.clientId.getD [] ≠ [] ∧ client.clientSecret.getD [] ≠ []
  credentials : ∀ value, ("authorization".toList, value) ∈ asked.headers →
    ∃ token, value = "Basic ".toList ++ token ∧ Base64.decode? token =
      some (Encoding.encode (client.clientId.getD [] ++ [':'] ++ client.clientSecret.getD []))

theorem payload_eq (client : Client) (mode : Mode) (markdown : Text) :
    payload client mode markdown = .obj (fields client mode markdown) := by
  cases mode with
  | readme => rfl
  | gfm =>
    cases hproject : client.project with
    | nil =>
      rw [payload, fields, hproject]
      rfl
    | cons c project =>
      rw [payload, fields, hproject]
      rfl

theorem printable_payload (client : Client) (mode : Mode) (markdown : Text) :
    Json.Printable (payload client mode markdown) := by
  have hfields : ∀ field ∈ fields client mode markdown, ∃ text, field.2 = .str text := by
    rw [fields]
    split <;> simp
  rw [payload_eq]
  refine .obj ?_
  intro field hfield
  obtain ⟨text, htext⟩ := hfields field hfield
  exact htext ▸ .str

theorem nonempty_eq_some_iff {given : Option Text} {text : Text} :
    nonempty given = some text ↔ given.getD [] ≠ [] ∧ text = given.getD [] := by
  match given with
  | none => simp [nonempty]
  | some [] => simp [nonempty]
  | some (c :: rest) => simp [nonempty, eq_comm]

theorem authorization?_eq_some_iff {value : Text} : authorization? client = some value ↔
    (client.clientId.getD [] ≠ [] ∧ client.clientSecret.getD [] ≠ []) ∧
    value = "Basic ".toList ++ Base64.encode
      (Encoding.encode (client.clientId.getD [] ++ [':'] ++ client.clientSecret.getD [])) := by
  rw [authorization?]
  split
  · rename_i id secret hid hsecret
    obtain ⟨hgiven, rfl⟩ := nonempty_eq_some_iff.1 hid
    obtain ⟨hgiven', rfl⟩ := nonempty_eq_some_iff.1 hsecret
    rw [Option.some.injEq, and_iff_right ⟨hgiven, hgiven'⟩]
    exact eq_comm
  · rename_i hmissing
    refine iff_of_false nofun ?_
    rintro ⟨⟨hid, hsecret⟩, -⟩
    exact hmissing _ _ (nonempty_eq_some_iff.2 ⟨hid, rfl⟩) (nonempty_eq_some_iff.2 ⟨hsecret, rfl⟩)

theorem mem_headers_iff {value : Text} : ("authorization".toList, value) ∈ headers client ↔
    authorization? client = some value := by
  simp [headers]

theorem hasScheme_standardUrl : hasScheme (tidyUrl standardUrl) = true := by decide

/-- Without a URL of its own any text is sent, and whatever is sent carries the text. -/
theorem request_carries (client : Client) (mode : Mode) (markdown : Text) :
    (client.url.getD [] = [] → ∃ asked, request client mode markdown = .ok asked) ∧
    ∀ asked, request client mode markdown = .ok asked → Carries client mode markdown asked := by
  constructor
  · intro hurl
    have hnone : nonempty client.url = none := by
      refine Option.eq_none_iff_forall_ne_some.2 ?_
      intro url h
      exact (nonempty_eq_some_iff.1 h).1 hurl
    rw [request, hnone]
    exact ⟨_, if_pos hasScheme_standardUrl⟩
  · intro asked h
    have hprintable := printable_payload client mode markdown
    rw [request] at h
    split at h
    · cases h
      refine ⟨hprintable.isAscii_compact, ?_, ?_, ?_⟩
      · rw [← payload_eq]
        exact Json.read_compact hprintable
      · simp only [mem_headers_iff, authorization?_eq_some_iff]
        exact ⟨fun ⟨_, hgiven, _⟩ => hgiven, fun hgiven => ⟨_, hgiven, rfl⟩⟩
      · intro value hvalue
        obtain ⟨-, rfl⟩ := authorization?_eq_some_iff.1 (mem_headers_iff.1 hvalue)
        exact ⟨_, rfl, Base64.decode?_encode _⟩
    · cases h

def smilingClient : Client where
  project := "café 🙂".toList
  clientId := some "id".toList
  clientSecret := some "s:ß".toList

theorem request_carries_smilingClient :
    ∃ asked token, request smilingClient .gfm "\"🙂\"\n".toList = .ok asked ∧
      Text.IsAscii asked.body ∧
      Json.read asked.body = .ok (.obj [("text".toList, .str "\"🙂\"\n".toList),
        ("mode".toList, .str "gfm".toList), ("context".toList, .str "café 🙂".toList)]) ∧
      ("authorization".toList, "Basic ".toList ++ token) ∈ asked.headers ∧
      Base64.decode? token = some (Encoding.encode "id:s:ß".toList) := by
  obtain ⟨hsent, hcarries⟩ := request_carries smilingClient .gfm "\"🙂\"\n".toList
  obtain ⟨asked, hasked⟩ := hsent rfl
  obtain ⟨hascii, hbody, hauthorized, hcredentials⟩ := hcarries asked hasked
  obtain ⟨value, hvalue⟩ := hauthorized.2 ⟨by decide, by decide⟩
  obtain ⟨token, rfl, htoken⟩ := hcredentials value hvalue
  exact ⟨asked, token, hasked, hascii, hbody, hvalue, htoken⟩

end Breadcrumb.Remote
