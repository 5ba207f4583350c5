import AssetGraph.Inventory.Client
import AssetGraph.Proofs.Entity.RoundTrip
/-!
# What is sent and what it is answered with

A call through a transport is one request and its response.  The request says what the call asks for: its body is read
as what was given, and has the members that are set and no others (`Call.IsAskedBy`).  The response decides the answer
by its status and, where that means success, by its body (`Call.IsDecidedBy`).
-/
namespace AssetGraph

open Json (Spells asText asInstant spells_ofFields spells_ofText spells_ofInstant record_ofFields asText_ofText
  asInstant_ofInstant get?_cons decodeWith_toJson decodeWith_list ofInstant optionalField Record.require)
open Http (Request Response)

/-! ## Bodies -/

namespace Json

variable {t : Option Instant}

/-- The names of an object's members, where they are texts. -/
def memberNames : Json → List (Option String)
  | .object members => members.map fun m => text? m.1
  | _ => []

theorem memberNames_ofFields (fields : List (String × Json)) :
    (ofFields fields).memberNames = (fields.map Prod.fst).map some := by
  simp [memberNames, ofFields, text?_escape]

/-- The instant that a field holds, if it is there. -/
def asTime : Option Json → Except Fault (Option Instant)
  | some j => some <$> asInstant j
  | none => .ok none

theorem asTime_map (h : ∀ s ∈ t, s.IsCivil) : asTime (t.map ofInstant) = .ok t := by
  cases t with
  | none => rfl
  | some s =>
    rw [Option.map_some, asTime, asInstant_ofInstant (h s rfl)]
    rfl

theorem get?_append (r r' : Record) (name : String) :
    Record.get? (r ++ r') name = (Record.get? r name).or (Record.get? r' name) := by
  induction r with
  | nil => rfl
  | cons f r ih =>
    rw [List.cons_append, get?_cons, get?_cons, ih]
    split_ifs <;> rfl

theorem get?_optionalField (field name : String) (t : Option Instant) :
    Record.get? (optionalField field ofInstant t) name = if name = field then t.map ofInstant else none := by
  cases t with
  | none => exact (ite_self none).symm
  | some s => exact get?_cons name (field, ofInstant s) []

end Json

open Json (asTime asTime_map get?_append get?_optionalField memberNames_ofFields)

namespace TeamRequest

/-- **What a team shall be**, by the body of a request. -/
def ofJson (j : Json) : Except Json.Fault TeamRequest := do
  let r ← Json.record ["identifier", "name"] j
  let identifier ← r.require "identifier" asText
  let name ← r.require "name" asText
  pure { identifier, name }

theorem spells_toJson (r : TeamRequest) : Spells r.toJson r.toJson.render :=
  spells_ofFields (by simp [spells_ofText])

theorem ofJson_toJson (r : TeamRequest) : ofJson r.toJson = .ok r := by
  rw [ofJson, toJson, record_ofFields (by simp) (by simp)]
  simp [bind, Except.bind, pure, Except.pure, Record.require, get?_cons, asText_ofText]

end TeamRequest

namespace AssetRequest

/-- **What an asset shall be**, by the body of a request. -/
def ofJson (j : Json) : Except Json.Fault AssetRequest := do
  let r ← Json.record ["type", "identifier", "timestamp", "expiration"] j
  let type ← r.require "type" asText
  let identifier ← r.require "identifier" asText
  let timestamp ← asTime (r.get? "timestamp")
  let expiration ← r.require "expiration" asInstant
  pure { key := { type, identifier }, timestamp, expiration }

theorem spells_toJson (r : AssetRequest) : Spells r.toJson r.toJson.render :=
  spells_ofFields (by cases r.timestamp <;> simp [optionalField, spells_ofText, spells_ofInstant])

theorem ofJson_toJson {r : AssetRequest} (htimestamp : ∀ t ∈ r.timestamp, t.IsCivil)
    (hexpiration : r.expiration.IsCivil) : ofJson r.toJson = .ok r := by
  rw [ofJson, toJson, record_ofFields (by cases r.timestamp <;> simp [optionalField])
    (by cases r.timestamp <;> simp [optionalField])]
  simp [bind, Except.bind, pure, Except.pure, Record.require, get?_append, get?_cons, get?_optionalField, asText_ofText,
    asTime_map htimestamp, asInstant_ofInstant hexpiration]

end AssetRequest

namespace OwnsRequest

/-- **From when until when a team shall own an asset**, by the body of a request. -/
def ofJson (j : Json) : Except Json.Fault OwnsRequest := do
  let r ← Json.record ["start_time", "end_time"] j
  let startTime ← r.require "start_time" asInstant
  let endTime ← asTime (r.get? "end_time")
  pure { startTime, endTime }

theorem spells_toJson (r : OwnsRequest) : Spells r.toJson r.toJson.render :=
  spells_ofFields (by cases r.endTime <;> simp [optionalField, spells_ofInstant])

theorem ofJson_toJson {r : OwnsRequest} (hstart : r.startTime.IsCivil) (hend : ∀ t ∈ r.endTime, t.IsCivil) :
    ofJson r.toJson = .ok r := by
  rw [ofJson, toJson, record_ofFields (by cases r.endTime <;> simp [optionalField])
    (by cases r.endTime <;> simp [optionalField])]
  simp [bind, Except.bind, pure, Except.pure, Record.require, get?_cons, get?_optionalField, asInstant_ofInstant hstart,
    asTime_map hend]

end OwnsRequest

namespace ParentOfRequest

/-- **When a containment shall be seen and until when it shall last**, by the body of a request. -/
def ofJson (j : Json) : Except Json.Fault ParentOfRequest := do
  let r ← Json.record ["timestamp", "expiration"] j
  let timestamp ← asTime (r.get? "timestamp")
  let expiration ← r.require "expiration" asInstant
  pure { timestamp, expiration }

theorem spells_toJson (r : ParentOfRequest) : Spells r.toJson r.toJson.render :=
  spells_ofFields (by cases r.timestamp <;> simp [optionalField, spells_ofInstant])

theorem ofJson_toJson {r : ParentOfRequest} (htimestamp : ∀ t ∈ r.timestamp, t.IsCivil)
    (hexpiration : r.expiration.IsCivil) : ofJson r.toJson = .ok r := by
  rw [ofJson, toJson, record_ofFields (by cases r.timestamp <;> simp [optionalField])
    (by cases r.timestamp <;> simp [optionalField])]
  simp [bind, Except.bind, pure, Except.pure, Record.require, get?_append, get?_cons, get?_optionalField,
    asTime_map htimestamp, asInstant_ofInstant hexpiration]

end ParentOfRequest

/-! ## Requests -/

namespace Call

variable {c : Call} {j : Json}

/-- A call that makes a new entity. -/
def isCreation : Call → Bool
  | createTeam _ | createAsset _ => true
  | _ => false

/-- A call that sets an edge, whether it exists or not. -/
def isUpsert : Call → Bool
  | upsertOwner .. | upsertParent .. => true
  | _ => false

/-- The times that a call sends along. -/
def times : Call → List Instant
  | createAsset r | updateAsset _ r => r.timestamp.toList ++ [r.expiration]
  | upsertOwner _ _ r => r.startTime :: r.endTime.toList
  | upsertParent _ _ r => r.timestamp.toList ++ [r.expiration]
  | _ => []

/-- The members that are set in what a call sends along. -/
def bodyNames : Call → List String
  | createTeam _ | updateTeam _ _ => ["identifier", "name"]
  | createAsset r | updateAsset _ r =>
    ["type", "identifier"] ++ (if r.timestamp.isSome then ["timestamp"] else []) ++ ["expiration"]
  | upsertOwner _ _ r => "start_time" :: if r.endTime.isSome then ["end_time"] else []
  | upsertParent _ _ r => (if r.timestamp.isSome then ["timestamp"] else []) ++ ["expiration"]
  | _ => []

/-- A tree that is read as what a call sends along. -/
def IsSaidBy : Call → Json → Prop
  | createTeam r, j | updateTeam _ r, j => TeamRequest.ofJson j = .ok r
  | createAsset r, j | updateAsset _ r, j => AssetRequest.ofJson j = .ok r
  | upsertOwner _ _ r, j => OwnsRequest.ofJson j = .ok r
  | upsertParent _ _ r, j => ParentOfRequest.ofJson j = .ok r
  | _, _ => False

/-- **A request that says what a call asks for.**  A listing sends nothing along.  Any other call sends a JSON text of
the members that are set, which is read as what was given if all times in it have a text. -/
def IsAskedBy (c : Call) (r : Request) : Prop :=
  if c.isListing then r.body = none
  else ∃ j, Json.parse? r.bodyBytes = some j ∧ j.memberNames = c.bodyNames.map some ∧
    ((∀ t ∈ c.times, t.IsCivil) → c.IsSaidBy j)

theorem exists_body (h : c.isListing = false) : ∃ j, c.body = some j := by
  cases c <;> first | exact ⟨_, rfl⟩ | cases h

theorem body_of_isListing (h : c.isListing = true) : c.body = none := by
  cases c <;> first | rfl | cases h

theorem spells_body (h : c.body = some j) : Spells j j.render := by
  cases c <;> cases h
  case createTeam r | updateTeam _ r => exact r.spells_toJson
  case createAsset r | updateAsset _ r => exact r.spells_toJson
  case upsertOwner _ _ r => exact r.spells_toJson
  case upsertParent _ _ r => exact r.spells_toJson

/-- **What is not set is left out**, and nothing else. -/
theorem memberNames_body (h : c.body = some j) : j.memberNames = c.bodyNames.map some := by
  cases c <;> cases h
  case createTeam r | updateTeam _ r => exact memberNames_ofFields _
  case createAsset r | updateAsset _ r =>
    obtain ⟨key, timestamp, expiration⟩ := r
    cases timestamp <;> exact memberNames_ofFields _
  case upsertOwner _ _ r =>
    obtain ⟨startTime, endTime⟩ := r
    cases endTime <;> exact memberNames_ofFields _
  case upsertParent _ _ r =>
    obtain ⟨timestamp, expiration⟩ := r
    cases timestamp <;> exact memberNames_ofFields _

theorem isSaidBy_body (h : c.body = some j) (htimes : ∀ t ∈ c.times, t.IsCivil) : c.IsSaidBy j := by
  cases c <;> cases h <;> simp only [times, List.forall_mem_append, List.forall_mem_cons, Option.mem_toList] at htimes
  case createTeam r | updateTeam _ r => exact r.ofJson_toJson
  case createAsset r | updateAsset _ r => exact AssetRequest.ofJson_toJson htimes.1 htimes.2.1
  case upsertOwner _ _ r => exact OwnsRequest.ofJson_toJson htimes.1 htimes.2
  case upsertParent _ _ r => exact ParentOfRequest.ofJson_toJson htimes.1 htimes.2.1

theorem isAskedBy_request (e : Endpoint) (c : Call) : c.IsAskedBy (e.request c) := by
  rw [IsAskedBy]
  split
  next h => exact body_of_isListing h
  next h =>
    obtain ⟨j, hj⟩ := exists_body (eq_false_of_ne_true h)
    have hbytes : (e.request c).bodyBytes = j.render := by rw [Request.bodyBytes, Endpoint.request, hj]; rfl
    exact ⟨j, by rw [hbytes, Json.parse?_eq_some_iff.2 (spells_body hj)], memberNames_body hj, isSaidBy_body hj⟩

end Call

/-! ## Responses -/

namespace Call

variable {c : Call}

theorem successes_eq (c : Call) :
    c.successes = if c.isCreation then [201] else if c.isUpsert then [200, 201] else [200] := by
  cases c <;> rfl

theorem of_mem_successes {status : Nat} (h : status ∈ c.successes) : status = 200 ∨ status = 201 := by
  rw [successes_eq] at h
  split_ifs at h <;> simp only [List.mem_cons, List.not_mem_nil, or_false] at h <;> omega

/-- **A call whose answer is decided by its response**: by the status, which tells success from each kind of failure
whatever the body, and on success by what the body is read as. -/
structure IsDecidedBy (c : Call) (response : Option Response) (answer : Except GraphError c.Answer) : Prop where
  ok : ∀ a, answer = .ok a ↔ ∃ r ∈ response, r.status ∈ c.successes ∧ c.decode r.body = .ok a
  malformed : (∃ reason, answer = .error (.malformed reason)) ↔
    ∃ r ∈ response, r.status ∈ c.successes ∧ ∀ a, c.decode r.body ≠ .ok a
  notFound : (∃ what, answer = .error (.notFound what)) ↔ ∃ r ∈ response, r.status = 404
  alreadyExists : (∃ what, answer = .error (.alreadyExists what)) ↔ ∃ r ∈ response, r.status = 409
  unexpected : ∀ expected returned, answer = .error (.unexpectedStatus expected returned) ↔
    ∃ r ∈ response, (r.status ∉ c.successes ∧ r.status ≠ 404 ∧ r.status ≠ 409) ∧
      expected = c.successes ∧ returned = r.status
  transport : (∃ reason, answer = .error (.transport reason)) ↔ response = none

end Call

namespace Endpoint

variable {e : Endpoint} {c : Call} {r : Response} {a : c.Answer} {fault : Json.Fault}

theorem answer_of_decoded (h : r.status ∈ c.successes) (ha : c.decode r.body = .ok a) :
    e.answer c (some r) = .ok a := by
  simp only [answer, List.contains_iff_mem.2 h, if_true, ha]

theorem answer_of_undecodable (h : r.status ∈ c.successes) (ha : c.decode r.body = .error fault) :
    e.answer c (some r) = .error (undecodable (e.request c).url) := by
  simp only [answer, List.contains_iff_mem.2 h, if_true, ha]

theorem answer_of_failure (h : r.status ∉ c.successes) :
    e.answer c (some r) = .error (if r.status = 404 then .notFound (e.request c).url.pathText
      else if r.status = 409 then .alreadyExists (e.request c).url.pathText
      else .unexpectedStatus c.successes r.status) := by
  simp only [answer, List.contains_iff_mem, h, if_false]
  split_ifs <;> rfl

/-- Every response decides: what it is answered with is told from its status and body. -/
theorem isDecidedBy_answer (e : Endpoint) (c : Call) (response : Option Response) :
    c.IsDecidedBy response (e.answer c response) := by
  -- 404 and 409 mean success of no call, so that no success is taken for one of them.
  have h404 : 404 ∉ c.successes := fun h => absurd (Call.of_mem_successes h) (by decide)
  have h409 : 409 ∉ c.successes := fun h => absurd (Call.of_mem_successes h) (by decide)
  cases response with
  | none => constructor <;> simp [answer, unanswered]
  | some r =>
    by_cases hsuccess : r.status ∈ c.successes
    · have hfound : r.status ≠ 404 := ne_of_mem_of_not_mem hsuccess h404
      have hnew : r.status ≠ 409 := ne_of_mem_of_not_mem hsuccess h409
      cases hread : c.decode r.body with
      | ok a =>
        rw [answer_of_decoded hsuccess hread]
        constructor <;> simp [hsuccess, hread, hfound, hnew]
      | error fault =>
        rw [answer_of_undecodable hsuccess hread]
        constructor <;> simp [undecodable, hsuccess, hread, hfound, hnew]
    · rw [answer_of_failure hsuccess]
      by_cases hfound : r.status = 404
      · constructor <;> simp [hfound, h404]
      by_cases hnew : r.status = 409
      · constructor <;> simp [hnew, h409]
      constructor <;> simp [hsuccess, hfound, hnew, eq_comm]

end Endpoint

/-! ## Answers -/

namespace Call

/-- The tree of what a call is answered with. -/
def answerJson : (c : Call) → c.Answer → Json
  | teams .., ts => .array (ts.map Team.toJson)
  | createTeam _, t | updateTeam _ _, t => t.toJson
  | assets .., as => .array (as.map Asset.toJson)
  | createAsset _, a | updateAsset _ _, a => a.toJson
  | owners .., os => .array (os.map Owns.toJson)
  | upsertOwner .., o => o.toJson
  | parents .., es | children .., es => .array (es.map ParentOf.toJson)
  | upsertParent .., e => e.toJson

/-- The times of an answer can be written. -/
def IsWritable : (c : Call) → c.Answer → Prop
  | teams .., _ | createTeam _, _ | updateTeam _ _, _ => True
  | assets .., as => ∀ a ∈ as, a.IsWritable
  | createAsset _, a | updateAsset _ _, a => a.IsWritable
  | owners .., os => ∀ o ∈ os, o.IsWritable
  | upsertOwner .., o => o.IsWritable
  | parents .., es | children .., es => ∀ e ∈ es, e.IsWritable
  | upsertParent .., e => e.IsWritable

theorem decode_answerJson {c : Call} {a : c.Answer} (h : c.IsWritable a) :
    c.decode (c.answerJson a).render = .ok a := by
  cases c
  case teams => exact decodeWith_list Team.spells_toJson fun t _ => t.ofJson_toJson
  case createTeam | updateTeam => exact decodeWith_toJson Team.spells_toJson a.ofJson_toJson
  case assets => exact decodeWith_list Asset.spells_toJson fun a ha => Asset.ofJson_toJson (h a ha)
  case createAsset | updateAsset => exact decodeWith_toJson Asset.spells_toJson (Asset.ofJson_toJson h)
  case owners => exact decodeWith_list Owns.spells_toJson fun o ho => Owns.ofJson_toJson (h o ho)
  case upsertOwner => exact decodeWith_toJson Owns.spells_toJson (Owns.ofJson_toJson h)
  case parents | children =>
    exact decodeWith_list ParentOf.spells_toJson fun e he => ParentOf.ofJson_toJson (h e he)
  case upsertParent => exact decodeWith_toJson ParentOf.spells_toJson (ParentOf.ofJson_toJson h)

end Call

namespace Endpoint

/-- **A call is one request, and its answer is decided by the response**, whatever is sent back.  The request says what
the call asks for.  The answer is the value that the body is read as if the status is one that means success of this
call: 201 for what is created, 200 or 201 for an edge that is set, 200 otherwise.  A body that is no such value is
malformed; a status of 404 or 409 means that something is missing or exists already, whatever the body, and any other is
unexpected.  Without a response the transport failed.  Every answer whose times can be written is read from its own
text. -/
theorem call_is_decided_by_its_response (e : Endpoint) (transport : Request → Option Response) (c : Call) :
    (∃ request, (e.call transport c).1 = [request] ∧ c.IsAskedBy request ∧
      c.IsDecidedBy (transport request) (e.call transport c).2) ∧
    c.successes = (if c.isCreation then [201] else if c.isUpsert then [200, 201] else [200]) ∧
    ∀ a, c.IsWritable a → c.decode (c.answerJson a).render = .ok a :=
  ⟨⟨e.request c, rfl, Call.isAskedBy_request e c, isDecidedBy_answer e c (transport (e.request c))⟩,
    c.successes_eq, fun _ => Call.decode_answerJson⟩

/-- An owner that was set is told by a status of 201 and its text, and that there is no such asset by one of 404, though
the text be the same. -/
theorem owner_is_decided_by_its_response :
    let e : Endpoint :=
      { base := { scheme := "http".toList, authority := some { host := "[::1]".toList }, path := [[]] } }
    let c := Call.upsertOwner "asset-1" "team-2" { startTime := .unexpired, endTime := none }
    let o : Owns := { id := "owns-3", teamId := "team-2", assetId := "asset-1",
                      startTime := .unexpired, endTime := none }
    (e.call (fun _ => some { status := 201, body := o.toJson.render }) c).2 = .ok o ∧
    ∃ what, (e.call (fun _ => some { status := 404, body := o.toJson.render }) c).2 = .error (.notFound what) := by
  intro e c o
  have hwritable : c.IsWritable o := ⟨by decide, by rintro t ⟨⟩⟩
  obtain ⟨⟨created, -, -, hcreated⟩, hsuccesses, hread⟩ :=
    call_is_decided_by_its_response e (fun _ => some { status := 201, body := o.toJson.render }) c
  obtain ⟨⟨missing, -, -, hmissing⟩, -⟩ :=
    call_is_decided_by_its_response e (fun _ => some { status := 404, body := o.toJson.render }) c
  refine ⟨(hcreated.ok o).2 ⟨_, rfl, ?_, hread o hwritable⟩, hmissing.notFound.2 ⟨_, rfl, rfl⟩⟩
  rw [hsuccesses]
  decide

end Endpoint

end AssetGraph
