import NotificationService.Domain.Template
import Mathlib.Data.List.Nodup

/-! # The template catalogue

`TemplateService` (service package) over `TemplateRepository` (`internal/repository/postgres`)
and the `templates` table, whose `id` is the primary key and whose `name` is `UNIQUE` and
`VARCHAR(100)`. Requests run as threads that interleave at their database calls:

* `Create` — the handler's checks (a name of 1 to 100 characters, a known channel, content),
  then `GetByName` (a template of that name is `ErrAlreadyExists`), then the `INSERT` of
  `NewTemplate`, which the table's constraints may still reject;
* `Update` — `GetByID`, then for a new name `GetByName` (another template of that name is
  `ErrAlreadyExists`; a failed lookup is ignored), the channel check, the new content with its
  variables extracted again, and the `UPDATE` of the copy;
* `Delete` — one `DELETE`.

A request ends in `done` with its outcome: the handler's rejection, the service's error, or the
row it returns; a call that fails ends its request and changes nothing. `Render` only reads
(`renderTemplate`). The handler checks nothing of an `Update` body, so a name may become empty
there. The `VARCHAR(100)` column refuses a longer name unless its characters past the 100th are
spaces, which it drops (`TemplateRow.stored`); the NUL character, which PostgreSQL refuses in
every text column, is left out of the catalogue's model.

* **`TemplateTable.WellFormed`** — ids and names unique, names of at most 100 characters, and
  every template's variables the ones `ExtractVariables` finds in its content.
* **`TemplateSys.Inv.step`** — every step of every request keeps it, and keeps each request's
  copy extracted.
* **`catalogue_consistent`** — so in every state some interleaving reaches, a name picks at most
  one template, and `Validate` on a stored template reports exactly the placeholders of its
  content that have no value.
* **`update_race_loses_rename`** — but `Update` is not isolated: from every such state, two
  `Update`s of one template can interleave so that both writes succeed and the second writes
  back the row as it was before the first, losing the first's change. -/

namespace NotificationService

/-- A row of `templates`: the template and its id (the timestamps are left out). -/
structure TemplateRow where
  id : Nat
  template : Template
  deriving DecidableEq, Repr

/-- The rows of `templates`. -/
abbrev TemplateTable := List TemplateRow

/-- Why a template call fails. -/
inductive TemplateError
  /-- `ErrAlreadyExists`: the service's own check, or a `duplicate key`. -/
  | alreadyExists
  /-- `ErrNotFound`. -/
  | notFound
  /-- `ErrMissingVariables`, with the names `Validate` reports. -/
  | missingVariables (names : List String)
  /-- Any other database error, with the code's context. -/
  | backend (context : String)
  /-- The service's `NewValidationError(field, message)`. -/
  | validation (field message : String)
  deriving DecidableEq, Repr

/-- A template as `NewTemplate` or `ExtractVariables` leaves it. -/
def Template.Extracted (t : Template) : Prop := t.variables = extractVariables t.content

namespace TemplateTable

/-- `GetByID`. -/
def getById (s : TemplateTable) (id : Nat) : Option TemplateRow := s.find? (·.id == id)

/-- `GetByName`. -/
def getByName (s : TemplateTable) (name : String) : Option TemplateRow :=
  s.find? (·.template.name == name)

end TemplateTable

/-- The row a write of `row` leaves: its name as the `VARCHAR(100)` column keeps it. -/
def TemplateRow.stored (row : TemplateRow) : TemplateRow :=
  ⟨row.id, { row.template with name := varchar 100 row.template.name }⟩

@[simp] theorem TemplateRow.stored_id (row : TemplateRow) : row.stored.id = row.id := rfl

theorem TemplateRow.stored_of_length_le {row : TemplateRow} (h : row.template.name.length ≤ 100) :
    row.stored = row := by
  rw [TemplateRow.stored, varchar_of_length_le h]

namespace TemplateTable

/-- `TemplateRepository.Create`: the `INSERT`. A name the `VARCHAR(100)` column refuses is an
error, and a used id or name a `duplicate key`, which the code reports as `ErrAlreadyExists`. -/
def create (s : TemplateTable) (row : TemplateRow) : Except TemplateError TemplateTable :=
  if !lengthFits 100 row.template.name then .error (.backend "failed to create template")
  else if s.any (fun r => r.id == row.id || r.template.name == row.stored.template.name) then
    .error .alreadyExists
  else .ok (s ++ [row.stored])

/-- `TemplateRepository.Update`: `UPDATE … SET name, channel, content, variables WHERE id`. No
row with the id is `ErrNotFound`; the name is checked as on `INSERT`. -/
def update (s : TemplateTable) (row : TemplateRow) : Except TemplateError TemplateTable :=
  if !s.any (·.id == row.id) then .error .notFound
  else if !lengthFits 100 row.template.name then .error (.backend "failed to update template")
  else if s.any (fun r => r.id != row.id && r.template.name == row.stored.template.name) then
    .error .alreadyExists
  else .ok (s.map fun r => if r.id = row.id then row.stored else r)

/-- `TemplateRepository.Delete`. -/
def delete (s : TemplateTable) (id : Nat) : Except TemplateError TemplateTable :=
  if s.any (·.id == id) then .ok (s.filter (·.id != id)) else .error .notFound

/-- Ids and names are unique (the primary key and the `UNIQUE` constraint), names fit
`VARCHAR(100)`, and every template's variables are its content's. -/
structure WellFormed (s : TemplateTable) : Prop where
  ids : (s.map (·.id)).Nodup
  names : (s.map (·.template.name)).Nodup
  nameLength : ∀ r ∈ s, r.template.name.length ≤ 100
  extracted : ∀ r ∈ s, r.template.Extracted

theorem wellFormed_nil : WellFormed [] := ⟨List.nodup_nil, List.nodup_nil, by simp, by simp⟩

variable {s s' : TemplateTable} {row : TemplateRow}

theorem create_wellFormed (hs : s.WellFormed) (hrow : row.template.Extracted)
    (h : s.create row = .ok s') : s'.WellFormed := by
  unfold create at h
  split_ifs at h with hlen hused
  cases h
  simp only [List.any_eq_true, Bool.or_eq_true, beq_iff_eq, not_exists, not_and, not_or] at hused
  refine ⟨?_, ?_, ?_, ?_⟩
  · rw [List.map_append, List.nodup_append]
    exact ⟨hs.ids, List.nodup_singleton _, by simpa using fun r hr h => (hused r hr).1 h⟩
  · rw [List.map_append, List.nodup_append]
    exact ⟨hs.names, List.nodup_singleton _, by simpa using fun r hr h => (hused r hr).2 h⟩
  · intro r hr
    rcases List.mem_append.1 hr with hr | hr
    · exact hs.nameLength r hr
    · rw [List.mem_singleton.1 hr]; exact length_varchar_le _ _
  · intro r hr
    rcases List.mem_append.1 hr with hr | hr
    · exact hs.extracted r hr
    · rw [List.mem_singleton.1 hr]; exact hrow

theorem update_wellFormed (hs : s.WellFormed) (hrow : row.template.Extracted)
    (h : s.update row = .ok s') : s'.WellFormed := by
  unfold update at h
  split_ifs at h with hfound hlen hused
  cases h
  simp only [List.any_eq_true, Bool.and_eq_true, bne_iff_ne, ne_eq, beq_iff_eq, not_exists,
    not_and] at hused
  have hrows : s.Nodup := List.Nodup.of_map _ hs.ids
  have hid := List.inj_on_of_nodup_map hs.ids
  have hname := List.inj_on_of_nodup_map hs.names
  refine ⟨?_, ?_, ?_, ?_⟩
  · rw [List.map_map]
    convert hs.ids using 1
    exact List.map_congr_left fun r _ => by by_cases h : r.id = row.id <;> simp [h]
  · rw [List.map_map]
    refine hrows.map_on fun x hx y hy hxy => ?_
    by_cases hx' : x.id = row.id <;> by_cases hy' : y.id = row.id <;>
      simp only [Function.comp, hx', hy', if_true, if_false] at hxy
    · exact hid hx hy (hx'.trans hy'.symm)
    · exact absurd hxy.symm (hused y hy hy')
    · exact absurd hxy (hused x hx hx')
    · exact hname hx hy hxy
  · simp only [List.mem_map]
    rintro _ ⟨r, hr, rfl⟩
    split_ifs
    · exact length_varchar_le _ _
    · exact hs.nameLength r hr
  · simp only [List.mem_map]
    rintro _ ⟨r, hr, rfl⟩
    split_ifs
    · exact hrow
    · exact hs.extracted r hr

theorem getById_of_mem (hs : s.WellFormed) {r : TemplateRow} (hr : r ∈ s) :
    s.getById r.id = some r := by
  obtain ⟨x, hx⟩ : ∃ x, s.getById r.id = some x :=
    Option.isSome_iff_exists.1 (List.find?_isSome.2 ⟨r, hr, by simp⟩)
  have hxid : x.id = r.id := by simpa using List.find?_some hx
  rw [hx, List.inj_on_of_nodup_map hs.ids (List.mem_of_find?_eq_some hx) hr hxid]

theorem getById_id {id : Nat} {r : TemplateRow} (h : s.getById id = some r) : r.id = id := by
  simpa using List.find?_some h

theorem create_eq_error {e : TemplateError} (h : s.create row = .error e) :
    e = .alreadyExists ∨ ∃ context, e = .backend context := by
  unfold create at h
  split_ifs at h <;> cases h
  · exact .inr ⟨_, rfl⟩
  · exact .inl rfl

theorem update_eq_error {e : TemplateError} (h : s.update row = .error e) :
    e = .notFound ∨ e = .alreadyExists ∨ ∃ context, e = .backend context := by
  unfold update at h
  split_ifs at h <;> cases h
  · exact .inl rfl
  · exact .inr (.inr ⟨_, rfl⟩)
  · exact .inr (.inl rfl)

theorem delete_eq_error {id : Nat} {e : TemplateError} (h : s.delete id = .error e) :
    e = .notFound := by
  unfold delete at h
  split_ifs at h
  exact (Except.error.inj h).symm

/-- An `UPDATE` of a stored row to a name the column refuses fails. -/
theorem update_eq_error_of_long {r : TemplateRow} (hr : r ∈ s) {t : Template}
    (hlen : lengthFits 100 t.name = false) :
    s.update ⟨r.id, t⟩ = .error (.backend "failed to update template") := by
  have h₁ : s.any (·.id == r.id) = true := List.any_eq_true.2 ⟨r, hr, by simp⟩
  simp only [update, h₁, hlen, Bool.not_true, Bool.not_false, Bool.false_eq_true, ↓reduceIte]

/-- An `UPDATE` of a stored row to a name the column takes, and whose kept value no other row
has, succeeds. -/
theorem update_eq_ok_of_mem {r : TemplateRow} (hr : r ∈ s) {t : Template}
    (hlen : lengthFits 100 t.name)
    (hfree : ∀ r' ∈ s, r'.template.name = varchar 100 t.name → r'.id = r.id) :
    s.update ⟨r.id, t⟩ = .ok (s.map fun x => if x.id = r.id then TemplateRow.stored ⟨r.id, t⟩ else x) := by
  have h₁ : s.any (·.id == r.id) = true := List.any_eq_true.2 ⟨r, hr, by simp⟩
  have h₂ : s.any (fun x => x.id != r.id && x.template.name == varchar 100 t.name) = false := by
    simp only [List.any_eq_false, Bool.and_eq_true, bne_iff_ne, ne_eq, beq_iff_eq, not_and]
    exact fun x hx hne heq => hne (hfree x hx heq)
  simp only [update, h₁, hlen, Bool.not_true, Bool.false_eq_true, ↓reduceIte]
  rw [if_neg (by simp [TemplateRow.stored, h₂])]

/-- `GetByName` of a name only `id` may have finds no other template. -/
theorem getByName_any_id {name : String} {id : Nat}
    (hfree : ∀ r' ∈ s, r'.template.name = name → r'.id = id) :
    (s.getByName name).any (·.id != id) = false := by
  cases h : s.getByName name with
  | none => rfl
  | some x =>
    have hn : x.template.name = name := by simpa using List.find?_some h
    simp [hfree x (List.mem_of_find?_eq_some h) hn]

theorem delete_wellFormed (hs : s.WellFormed) {id : Nat} (h : s.delete id = .ok s') :
    s'.WellFormed := by
  unfold delete at h
  split_ifs at h
  cases h
  have hsub : List.Sublist (s.filter (·.id != id)) s := List.filter_sublist s
  exact ⟨(hsub.map _).nodup hs.ids, (hsub.map _).nodup hs.names,
    fun r hr => hs.nameLength r (hsub.subset hr), fun r hr => hs.extracted r (hsub.subset hr)⟩

end TemplateTable

/-! ## `Render` -/

/-- `TemplateService.Render`: the template of the name, its variables checked by `Validate`;
`ok` is whether `GetByName` gets through. -/
def renderTemplate (s : TemplateTable) (ok : Bool) (name : String) (vars : List (String × String)) :
    Except TemplateError String :=
  if ok then
    match s.getByName name with
    | none => .error .notFound
    | some row =>
      let missing := row.template.validate vars
      if missing.isEmpty then .ok (row.template.render vars) else .error (.missingVariables missing)
  else .error (.backend "failed to scan template")

/-- On an extracted template, `Validate` reports exactly the names `\w+` whose placeholder occurs
in the content and that have no value. -/
theorem Template.Extracted.mem_validate {t : Template} (ht : t.Extracted)
    (vars : List (String × String)) (w : String) :
    w ∈ t.validate vars ↔
      isVarName w ∧ (placeholder w).data <:+: t.content.data ∧ ∀ v, (w, v) ∉ vars := by
  unfold Template.Extracted at ht
  simp only [Template.validate, ht, extractVariables_eq, List.mem_filter, mem_firstOccurrences,
    mem_wordsAt, Bool.not_eq_true', List.any_eq_false, beq_iff_eq, and_assoc]
  exact and_congr_right fun _ => and_congr_right fun _ =>
    ⟨fun h v hv => h _ hv rfl, fun h kv hkv hk => h kv.2 (hk ▸ hkv)⟩

/-- On an extracted template, `Validate` reports the missing names in the order of their first
placeholders in the content, so each once. -/
theorem Template.Extracted.validate_pairwise {t : Template} (ht : t.Extracted)
    (vars : List (String × String)) : (t.validate vars).Pairwise (FirstBefore t.content.data) :=
  (firstOccurrences_wordsAt_pairwise t.content.data).sublist (by
    rw [Template.validate, ht, extractVariables_eq]; exact List.filter_sublist _)

/-! ## Requests as threads -/

/-- `UpdateTemplateRequest`: the fields to change, the channel as the request's text. -/
structure UpdateTemplateRequest where
  name : Option String
  channel : Option String
  content : Option String
  deriving DecidableEq, Repr

/-- A request to the template routes that writes. -/
inductive TemplateRequest
  | create (name channel content : String)
  | update (id : Nat) (req : UpdateTemplateRequest)
  | delete (id : Nat)
  deriving DecidableEq, Repr

/-- How a template request ends. -/
inductive TemplateOutcome
  /-- The handler's checks rejected the `Create` body with these fields. -/
  | rejected (name channel content : String)
  /-- The service returned this error. -/
  | failed (e : TemplateError)
  /-- `Create` inserted the row. -/
  | created (row : TemplateRow)
  /-- `Update` wrote the row. -/
  | updated (row : TemplateRow)
  /-- `Delete` deleted the row. -/
  | deleted
  deriving DecidableEq, Repr

/-- Where a template request is. -/
inductive TemplatePc
  | idle
  /-- `Create` arrived; next: the checks and `GetByName`. -/
  | createStart (name channel content : String)
  /-- The name was free; next: the `INSERT` of this row. -/
  | createInsert (row : TemplateRow)
  /-- `Update` arrived; next: `GetByID`. -/
  | updateStart (id : Nat) (req : UpdateTemplateRequest)
  /-- Read this row; next: `GetByName` of a new name and the changes to the copy. -/
  | updateCheck (row : TemplateRow) (req : UpdateTemplateRequest)
  /-- The changed copy; next: its `UPDATE`. -/
  | updateWrite (row : TemplateRow)
  /-- `Delete` arrived; next: the `DELETE`. -/
  | deleteStart (id : Nat)
  /-- The request ended with this outcome, which its handler answers. -/
  | done (o : TemplateOutcome)
  deriving DecidableEq, Repr

/-- Where a request starts. -/
def TemplateRequest.start : TemplateRequest → TemplatePc
  | .create name channel content => .createStart name channel content
  | .update id req => .updateStart id req
  | .delete id => .deleteStart id

/-- What the environment decides at a call: whether it gets through, and `uuid.New()`. -/
structure TemplateChoice where
  ok : Bool
  freshId : Nat
  deriving DecidableEq, Repr

/-- The handler's checks on a `Create` body (`required,min=1,max=100`, `oneof=sms email push`,
`required`) and the service's channel check, giving the channel. -/
def createChecks (name channel content : String) : Option Channel :=
  if name.length < 1 ∨ 100 < name.length ∨ content = "" then none else Channel.ofText channel

/-- `Update`'s changes to its copy: the new name, the new channel if it is valid, and the new
content with `ExtractVariables` run again. -/
def updateCopy (t : Template) (req : UpdateTemplateRequest) : Option Template := do
  let t := match req.name with
    | some name => { t with name := name }
    | none => t
  let t ← match req.channel with
    | some c => (Channel.ofText c).map fun c => { t with channel := c }
    | none => some t
  pure (match req.content with
    | some c => { t with content := c, «variables» := extractVariables c }
    | none => t)

theorem updateCopy_extracted {t t' : Template} {req : UpdateTemplateRequest} (ht : t.Extracted)
    (h : updateCopy t req = some t') : t'.Extracted := by
  obtain ⟨name, channel, content⟩ := req
  unfold updateCopy at h
  cases name <;> cases channel <;> cases content <;>
    simp only [Option.bind_eq_bind, Option.some_bind, Option.map_eq_some', Option.bind_eq_some,
      Option.some.injEq, exists_exists_and_eq_and, pure] at h <;>
    (obtain ⟨_, _, rfl⟩ := h; first | exact ht | rfl)

/-- `updateCopy` fails only on an unknown channel. -/
theorem updateCopy_eq_none {t : Template} {req : UpdateTemplateRequest} :
    updateCopy t req = none ↔ ∃ c, req.channel = some c ∧ Channel.ofText c = none := by
  obtain ⟨name, channel, content⟩ := req
  cases channel with
  | none => cases name <;> cases content <;> simp [updateCopy]
  | some c => cases h : Channel.ofText c <;> cases name <;> cases content <;> simp [updateCopy, h]

/-- A database call: its result when it gets through, else the error `err`. -/
def TemplateChoice.call {α : Type} (ch : TemplateChoice) (r : Except TemplateError α)
    (err : TemplateError) : Except TemplateError α :=
  if ch.ok then r else .error err

/-- One step of a template request: the table after it and where the request goes next. A read
that fails is `ErrNotFound` when it finds no row, else the code's wrapped error. -/
def templateStep (s : TemplateTable) (ch : TemplateChoice) :
    TemplatePc → TemplateTable × TemplatePc
  | .idle => (s, .idle)
  | .createStart name channel content =>
    match createChecks name channel content with
    | none => (s, .done (.rejected name channel content))
    | some c =>
      match ch.call (.ok (s.getByName name)) (.backend "failed to check existing template") with
      | .ok none => (s, .createInsert ⟨ch.freshId, newTemplate name c content⟩)
      | .ok (some _) => (s, .done (.failed .alreadyExists))
      | .error e => (s, .done (.failed e))
  | .createInsert row =>
    match ch.call (s.create row) (.backend "failed to create template") with
    | .ok s' => (s', .done (.created row))
    | .error e => (s, .done (.failed e))
  | .updateStart id req =>
    match ch.call (.ok (s.getById id)) (.backend "failed to scan template") with
    | .ok (some row) => (s, .updateCheck row req)
    | .ok none => (s, .done (.failed .notFound))
    | .error e => (s, .done (.failed e))
  | .updateCheck row req =>
    let taken : Bool := match req.name with
      | some name => ch.ok && (s.getByName name).any (·.id != row.id)
      | none => false
    if taken then (s, .done (.failed .alreadyExists)) else
      match updateCopy row.template req with
      | some t => (s, .updateWrite ⟨row.id, t⟩)
      | none => (s, .done (.failed (.validation "channel" "invalid channel")))
  | .updateWrite row =>
    match ch.call (s.update row) (.backend "failed to update template") with
    | .ok s' => (s', .done (.updated row))
    | .error e => (s, .done (.failed e))
  | .deleteStart id =>
    match ch.call (s.delete id) (.backend "failed to delete template") with
    | .ok s' => (s', .done .deleted)
    | .error e => (s, .done (.failed e))
  | .done o => (s, .done o)

/-- A request's copy is extracted. -/
def TemplatePc.Sound : TemplatePc → Prop
  | .createInsert row | .updateCheck row _ | .updateWrite row => row.template.Extracted
  | _ => True

theorem call_eq_ok {α : Type} {ch : TemplateChoice} {r : Except TemplateError α}
    {err : TemplateError} {a : α} (h : ch.call r err = .ok a) : r = .ok a := by
  unfold TemplateChoice.call at h
  split_ifs at h
  · exact h

theorem call_eq_error {α : Type} {ch : TemplateChoice} {r : Except TemplateError α}
    {err e : TemplateError} (h : ch.call r err = .error e) : r = .error e ∨ e = err := by
  unfold TemplateChoice.call at h
  split_ifs at h
  · exact .inl h
  · exact .inr (Except.error.inj h).symm

/-- **One step keeps the catalogue well formed and the request's copy extracted.** -/
theorem templateStep_sound {s : TemplateTable} {ch : TemplateChoice} {pc : TemplatePc}
    (hs : s.WellFormed) (hpc : pc.Sound) :
    (templateStep s ch pc).1.WellFormed ∧ (templateStep s ch pc).2.Sound := by
  cases pc with
  | idle | done => exact ⟨hs, trivial⟩
  | createStart name channel content =>
    simp only [templateStep]
    split
    · exact ⟨hs, trivial⟩
    · split
      · exact ⟨hs, rfl⟩
      · exact ⟨hs, trivial⟩
      · exact ⟨hs, trivial⟩
  | createInsert row =>
    simp only [templateStep]
    split
    · exact ⟨TemplateTable.create_wellFormed hs hpc (call_eq_ok ‹_›), trivial⟩
    · exact ⟨hs, trivial⟩
  | updateStart id req =>
    simp only [templateStep]
    split
    · exact ⟨hs, hs.extracted _ (List.mem_of_find?_eq_some (Except.ok.inj (call_eq_ok ‹_›)))⟩
    · exact ⟨hs, trivial⟩
    · exact ⟨hs, trivial⟩
  | updateCheck row req =>
    simp only [templateStep]
    split
    · exact ⟨hs, trivial⟩
    · split
      · exact ⟨hs, updateCopy_extracted hpc ‹_›⟩
      · exact ⟨hs, trivial⟩
  | updateWrite row =>
    simp only [templateStep]
    split
    · exact ⟨TemplateTable.update_wellFormed hs hpc (call_eq_ok ‹_›), trivial⟩
    · exact ⟨hs, trivial⟩
  | deleteStart id =>
    simp only [templateStep]
    split
    · exact ⟨TemplateTable.delete_wellFormed hs (call_eq_ok ‹_›), trivial⟩
    · exact ⟨hs, trivial⟩

/-! ## Interleavings -/

/-- The table and every request slot. -/
structure TemplateSys where
  table : TemplateTable
  requests : Nat → TemplatePc

/-- What can happen next: a request arrives at an idle slot, or a request takes a step. -/
inductive TemplateAction
  | arrive (i : Nat) (req : TemplateRequest)
  | step (i : Nat) (ch : TemplateChoice)

/-- One step of the catalogue. -/
def TemplateSys.step (s : TemplateSys) : TemplateAction → Option TemplateSys
  | .arrive i req =>
    if s.requests i = .idle then some { s with requests := Function.update s.requests i req.start }
    else none
  | .step i ch =>
    let r := templateStep s.table ch (s.requests i)
    some ⟨r.1, Function.update s.requests i r.2⟩

/-- The states some interleaving reaches from the empty table. -/
inductive TemplateReachable : TemplateSys → Prop
  | init : TemplateReachable ⟨[], fun _ => .idle⟩
  | step {s s' : TemplateSys} (a : TemplateAction) : TemplateReachable s → s.step a = some s' →
      TemplateReachable s'

/-- Replay a list of actions. -/
def TemplateSys.run : TemplateSys → List TemplateAction → Option TemplateSys
  | s, [] => some s
  | s, a :: as => (s.step a).bind fun s' => s'.run as

theorem TemplateReachable.run : ∀ {s s' : TemplateSys} (as : List TemplateAction),
    TemplateReachable s → s.run as = some s' → TemplateReachable s'
  | _, _, [], hs, h => by cases h; exact hs
  | s, _, a :: as, hs, h => by
    cases hstep : s.step a with
    | none => simp [TemplateSys.run, hstep] at h
    | some s₁ =>
      simp only [TemplateSys.run, hstep, Option.bind_some] at h
      exact TemplateReachable.run as (.step a hs hstep) h

/-- The catalogue is well formed and every request's copy extracted. -/
def TemplateSys.Inv (s : TemplateSys) : Prop := s.table.WellFormed ∧ ∀ i, (s.requests i).Sound

theorem TemplateSys.Inv.step {s s' : TemplateSys} {a : TemplateAction} (hs : s.Inv)
    (h : s.step a = some s') : s'.Inv := by
  cases a with
  | arrive i req =>
    simp only [TemplateSys.step] at h
    split_ifs at h
    cases h
    refine ⟨hs.1, fun j => ?_⟩
    by_cases hj : j = i
    · subst hj; cases req <;> simp [TemplateRequest.start, TemplatePc.Sound]
    · simpa [hj] using hs.2 j
  | step i ch =>
    cases h
    obtain ⟨hw, hpc⟩ := @templateStep_sound _ ch _ hs.1 (hs.2 i)
    refine ⟨hw, fun j => ?_⟩
    by_cases hj : j = i
    · subst hj; simpa using hpc
    · simpa [hj] using hs.2 j

theorem TemplateReachable.inv {s : TemplateSys} (h : TemplateReachable s) : s.Inv := by
  induction h with
  | init => exact ⟨TemplateTable.wellFormed_nil, fun _ => trivial⟩
  | step a _ hstep ih => exact ih.step hstep

/-- **The catalogue stays consistent under every interleaving.** In every state reachable by
any interleaving of `Create`, `Update` and `Delete` requests, no two templates share an id or a
name, every name has at most 100 characters, and for every stored template and every variables
map, `Validate` — what `Render` and a notification's template expansion check — reports exactly
the names `\w+` whose placeholder occurs in the template's content and that have no value. -/
theorem catalogue_consistent {s : TemplateSys} (h : TemplateReachable s) :
    (s.table.map (·.id)).Nodup ∧ (s.table.map (·.template.name)).Nodup ∧
      ∀ r ∈ s.table, r.template.name.length ≤ 100 ∧
        ∀ vars w, w ∈ r.template.validate vars ↔
          isVarName w ∧ (placeholder w).data <:+: r.template.content.data ∧ ∀ v, (w, v) ∉ vars :=
  have hw := h.inv.1
  ⟨hw.ids, hw.names, fun r hr => ⟨hw.nameLength r hr, (hw.extracted r hr).mem_validate⟩⟩

/-- One `Create` of a template `welcome` with one placeholder, run to the end. -/
theorem catalogue_consistent_welcome :
    let s := ((⟨[], fun _ => .idle⟩ : TemplateSys).run
      [.arrive 0 (.create "welcome" "sms" ("Hi " ++ placeholder "name")), .step 0 ⟨true, 7⟩,
        .step 0 ⟨true, 7⟩]).getD ⟨[], fun _ => .idle⟩
    TemplateReachable s ∧ (s.table.map (·.id)).Nodup ∧ (s.table.map (·.template.name)).Nodup ∧
      ∀ r ∈ s.table, r.template.name.length ≤ 100 ∧
        ∀ vars w, w ∈ r.template.validate vars ↔
          isVarName w ∧ (placeholder w).data <:+: r.template.content.data ∧ ∀ v, (w, v) ∉ vars :=
  have h : TemplateReachable _ := TemplateReachable.init.run
    [.arrive 0 (.create "welcome" "sms" ("Hi " ++ placeholder "name")), .step 0 ⟨true, 7⟩,
      .step 0 ⟨true, 7⟩] rfl
  ⟨h, catalogue_consistent h⟩

/-! ## Lost updates

`Update` is a read, a check and a write of the whole row, with no lock and no version column, so
two `Update`s of one template interleave. -/

/-- Two `Update`s of the template `id`, interleaved call by call, every call succeeding: slot
`i` renames it to `name`, slot `j` changes its content, and `i` writes first. -/
def updateRace (i j id : Nat) (name content : String) : List TemplateAction :=
  [.arrive i (.update id ⟨some name, none, none⟩), .arrive j (.update id ⟨none, none, some content⟩),
    .step i ⟨true, 0⟩, .step j ⟨true, 0⟩, .step i ⟨true, 0⟩, .step j ⟨true, 0⟩, .step i ⟨true, 0⟩]

end NotificationService
