import NotificationService.Domain.Notification

/-! # Message templates

`internal/domain/queue.go`'s `Template`: content with `{{name}}` placeholders and the list of
variable names extracted from it. The admission path reads templates (it never writes them),
validates the request's variables against `variables` and renders the content by literal
replacement.

A Go map's iteration order is random; the variables map is a list of distinct keys here,
iterated in list order, so that every order the map can take is some list.

`ExtractVariables` runs `FindAllStringSubmatch` of the pattern `\{\{(\w+)\}\}` over the content
and keeps each name once. The regular expression is modelled by its match at the head of a string
(`matchAt`) and the left-to-right scan that skips what a match consumed (`findAll`).

* **`findAll_eq`** — no placeholder starts inside a match, so the scan finds the match at every
  position.
* **`mem_wordsAt`** — the names found are the `\w+` names whose placeholder occurs in the content.
* **`validate_newTemplate`** — on a template made from content `c`, `Validate` reports exactly
  the names whose placeholder occurs in `c` and that have no value, each once, in the order of
  their first placeholders. -/

namespace NotificationService

/-- A message template (`domain.Template`, without its identity and timestamps). -/
structure Template where
  name : String
  channel : Channel
  content : String
  «variables» : List String
  deriving DecidableEq, Repr

/-- The characters of `strings.ReplaceAll` for a non-empty `old`: scan left to right and
replace every non-overlapping occurrence of `old` by `new`. `fuel` bounds the scan. -/
def replaceAllAux (old new : List Char) : Nat → List Char → List Char
  | 0, s => s
  | _ + 1, [] => []
  | k + 1, c :: s =>
    if old.isPrefixOf (c :: s) then new ++ replaceAllAux old new k ((c :: s).drop old.length)
    else c :: replaceAllAux old new k s

/-- `strings.ReplaceAll s old new`; an empty `old` matches before every character and at the
end. -/
def replaceAll (s old new : String) : String :=
  if old.isEmpty then ⟨new.data ++ (s.data.map fun c => c :: new.data).flatten⟩
  else ⟨replaceAllAux old.data new.data s.length s.data⟩

/-- The placeholder of a variable, `"{{" + key + "}}"`. -/
def placeholder (key : String) : String := "\x7b\x7b" ++ key ++ "\x7d\x7d"

namespace Template

/-- `Template.Render`: replace each variable's placeholder by its value, one variable after
the other in the map's iteration order. -/
def render (t : Template) (vars : List (String × String)) : String :=
  vars.foldl (fun result kv => replaceAll result (placeholder kv.1) kv.2) t.content

/-- `Template.Validate`: the template's variables that have no value, in order. -/
def validate (t : Template) (vars : List (String × String)) : List String :=
  t.variables.filter fun v => !(vars.any fun kv => kv.1 == v)

end Template

/-! ## `variablePattern` -/

/-- `\w` in Go's regular expressions: an ASCII letter, digit or underscore. -/
def isWordChar (c : Char) : Bool := c.isAlphanum || c == '_'

/-- A name `\w+` matches: one or more word characters. -/
def isVarName (w : String) : Bool := !w.data.isEmpty && w.data.all isWordChar

/-- The match of `\{\{(\w+)\}\}` at the head of `s`: its group and what follows the match.
`\w+` takes the longest run of word characters; a shorter one is followed by a word character,
not by the closing braces, so the run is the only candidate. -/
def matchAt : List Char → Option (String × List Char)
  | '\x7b' :: '\x7b' :: s =>
    match s.dropWhile isWordChar with
    | '\x7d' :: '\x7d' :: rest =>
      if s.takeWhile isWordChar = [] then none else some (⟨s.takeWhile isWordChar⟩, rest)
    | _ => none
  | _ => none

theorem placeholder_data (w : String) :
    (placeholder w).data = '\x7b' :: '\x7b' :: (w.data ++ ['\x7d', '\x7d']) := rfl

/-- **A match at the head is a placeholder of a name**, and every placeholder of a name at the
head is the match. -/
theorem matchAt_eq_some {s rest : List Char} {w : String} :
    matchAt s = some (w, rest) ↔ isVarName w ∧ s = (placeholder w).data ++ rest := by
  constructor
  · intro h
    unfold matchAt at h
    split at h
    · rename_i s
      split at h
      · rename_i rest' hd
        split at h
        · cases h
        · rename_i hne
          cases h
          refine ⟨by simp [isVarName, hne], ?_⟩
          rw [placeholder_data]
          conv_lhs => rw [← List.takeWhile_append_dropWhile isWordChar s, hd]
          simp
      · cases h
    · cases h
  · rintro ⟨hw, rfl⟩
    simp only [isVarName, Bool.and_eq_true, Bool.not_eq_true', List.isEmpty_eq_false,
      List.all_eq_true] at hw
    have hclose : isWordChar '\x7d' = false := by decide
    rw [placeholder_data]
    simp [matchAt, List.takeWhile_append_of_pos hw.2, List.dropWhile_append_of_pos hw.2, hclose,
      hw.1]

/-- No match starts at a character other than an opening brace. -/
theorem matchAt_cons_of_ne {c : Char} {s : List Char} (hc : c ≠ '\x7b') : matchAt (c :: s) = none := by
  unfold matchAt
  split
  · rename_i h; cases h; exact absurd rfl hc
  · rfl

/-- Nor at an opening brace followed by anything but another. -/
theorem matchAt_brace_of_ne {c : Char} {s : List Char} (hc : c ≠ '\x7b') :
    matchAt ('\x7b' :: c :: s) = none := by
  unfold matchAt
  split
  · rename_i h; cases h; exact absurd rfl hc
  · rfl

/-! ## `FindAllStringSubmatch` -/

/-- The groups of `variablePattern`'s matches at each position of `s`, in order, overlapping
ones included. -/
def wordsAt : List Char → List String
  | [] => []
  | c :: s => ((matchAt (c :: s)).map Prod.fst).toList ++ wordsAt s

/-- `FindAllStringSubmatch(s, -1)`'s groups: scan left to right, taking the match at a position
and going on after it, or going on at the next position. `fuel` bounds the scan. -/
def findAllAux : Nat → List Char → List String
  | 0, _ => []
  | _ + 1, [] => []
  | k + 1, c :: s =>
    match matchAt (c :: s) with
    | some (w, rest) => w :: findAllAux k rest
    | none => findAllAux k s

/-- `variablePattern.FindAllStringSubmatch(content, -1)`, the group of each match. -/
def findAll (s : List Char) : List String := findAllAux s.length s

theorem wordsAt_append_of_word {w : List Char} (hw : ∀ c ∈ w, isWordChar c = true)
    (l : List Char) : wordsAt (w ++ l) = wordsAt l := by
  induction w with
  | nil => rfl
  | cons c w ih =>
    have hc : c ≠ '\x7b' := fun h => by
      have := hw c (List.mem_cons_self _ _); subst h; exact absurd this (by decide)
    simp [wordsAt, matchAt_cons_of_ne hc, ih fun d hd => hw d (List.mem_cons_of_mem _ hd)]

/-- **No placeholder starts inside a match**: past a match the positions hold nothing. -/
theorem wordsAt_of_matchAt {s rest : List Char} {w : String} (h : matchAt s = some (w, rest)) :
    wordsAt s = w :: wordsAt rest := by
  obtain ⟨hw, rfl⟩ := matchAt_eq_some.1 h
  simp only [isVarName, Bool.and_eq_true, Bool.not_eq_true', List.isEmpty_eq_false,
    List.all_eq_true] at hw
  obtain ⟨c, w', hcw⟩ := List.exists_cons_of_ne_nil hw.1
  have hword : ∀ d ∈ c :: w', isWordChar d = true := hcw ▸ hw.2
  have hc : c ≠ '\x7b' := fun hc => absurd (hword c (List.mem_cons_self _ _)) (by rw [hc]; decide)
  have e : (placeholder w).data ++ rest =
      '\x7b' :: '\x7b' :: c :: (w' ++ '\x7d' :: '\x7d' :: rest) := by
    rw [placeholder_data, hcw]; simp
  rw [e] at h ⊢
  have hw' := wordsAt_append_of_word (fun d hd => hword d (List.mem_cons_of_mem _ hd))
    ('\x7d' :: '\x7d' :: rest)
  simp [wordsAt, h, matchAt_brace_of_ne hc, matchAt_cons_of_ne hc, hw',
    matchAt_cons_of_ne (show '\x7d' ≠ '\x7b' by decide)]

/-- **The scan finds the match at every position**: given enough fuel it is `wordsAt`. -/
theorem findAllAux_eq : ∀ {k : Nat} {s : List Char}, s.length ≤ k → findAllAux k s = wordsAt s
  | 0, [], _ => rfl
  | k + 1, [], _ => rfl
  | k + 1, c :: s, h => by
    unfold findAllAux
    split
    · rename_i w rest hm
      have hlen : rest.length ≤ k := by
        have := congrArg List.length (matchAt_eq_some.1 hm).2
        simp only [placeholder_data, List.length_cons, List.length_append] at this h
        omega
      rw [findAllAux_eq hlen, wordsAt_of_matchAt hm]
    · rename_i hm
      rw [findAllAux_eq (by simp at h; omega)]
      simp [wordsAt, hm]

theorem findAll_eq (s : List Char) : findAll s = wordsAt s := findAllAux_eq le_rfl

/-- **The names found are the names whose placeholder occurs.** -/
theorem mem_wordsAt {w : String} {s : List Char} :
    w ∈ wordsAt s ↔ isVarName w ∧ (placeholder w).data <:+: s := by
  induction s with
  | nil =>
    simp only [wordsAt, List.not_mem_nil, false_iff, not_and]
    intro _ h
    rw [List.infix_nil, placeholder_data] at h
    cases h
  | cons c s ih =>
    rw [wordsAt, List.mem_append, ih, List.infix_cons_iff]
    constructor
    · rintro (h | h)
      · obtain ⟨⟨w', rest⟩, hm, rfl⟩ := Option.mem_map.1 (Option.mem_toList.1 h)
        obtain ⟨hw, he⟩ := matchAt_eq_some.1 hm
        exact ⟨hw, .inl ⟨rest, he.symm⟩⟩
      · exact ⟨h.1, .inr h.2⟩
    · rintro ⟨hw, ⟨rest, he⟩ | h⟩
      · exact .inl (Option.mem_toList.2 (Option.mem_map.2 ⟨(w, rest),
          matchAt_eq_some.2 ⟨hw, he.symm⟩, rfl⟩))
      · exact .inr ⟨hw, h⟩

/-! ## `ExtractVariables` and `Validate` -/

/-- `Template.ExtractVariables`: the group of each match, each name once, at its first match
(the names in `vars` are the ones `seen` holds). -/
def extractVariables (content : String) : List String :=
  (findAll content.data).foldl (fun vars m => if m ∈ vars then vars else vars ++ [m]) []

/-- `NewTemplate`: the content's variables are extracted when the template is made. -/
def newTemplate (name : String) (channel : Channel) (content : String) : Template :=
  ⟨name, channel, content, extractVariables content⟩

/-- Each element of a list once, at its first position. -/
def firstOccurrences : List String → List String
  | [] => []
  | a :: l => a :: (firstOccurrences l).filter (· ≠ a)

theorem mem_firstOccurrences {x : String} : ∀ {l : List String}, x ∈ firstOccurrences l ↔ x ∈ l
  | [] => Iff.rfl
  | a :: l => by
    by_cases h : x = a <;> simp [firstOccurrences, h, mem_firstOccurrences]

/-- The loop with the `seen` check keeps the first occurrences of the names not yet seen. -/
theorem foldl_seen (l acc : List String) :
    l.foldl (fun vars m => if m ∈ vars then vars else vars ++ [m]) acc =
      acc ++ (firstOccurrences l).filter (· ∉ acc) := by
  induction l generalizing acc with
  | nil => simp [firstOccurrences]
  | cons a l ih =>
    rw [List.foldl_cons, firstOccurrences]
    by_cases ha : a ∈ acc
    · rw [if_pos ha, ih, List.filter_cons_of_neg (by simpa using ha), List.filter_filter]
      congr 1
      exact List.filter_congr fun x _ => by by_cases hx : x = a <;> simp [hx, ha]
    · rw [if_neg ha, ih, List.filter_cons_of_pos (by simpa using ha), List.filter_filter,
        List.append_assoc, List.singleton_append]
      congr 2
      exact List.filter_congr fun x _ => by by_cases hx : x = a <;> simp [hx, ha]

theorem extractVariables_eq (content : String) :
    extractVariables content = firstOccurrences (wordsAt content.data) := by
  simp [extractVariables, foldl_seen, findAll_eq]

/-- The placeholder of `w` occurs in `s` at offset `i`. -/
def OccursAt (w : String) (s : List Char) (i : Nat) : Prop := (placeholder w).data <+: s.drop i

/-- `w₁`'s placeholder occurs in `s` before any of `w₂`'s. -/
def FirstBefore (s : List Char) (w₁ w₂ : String) : Prop :=
  ∃ i, OccursAt w₁ s i ∧ ∀ j ≤ i, ¬OccursAt w₂ s j

/-- A name whose placeholder occurs at the head is the head's match. -/
theorem matchAt_of_occursAt {w : String} {s : List Char} (hw : isVarName w)
    (h : OccursAt w s 0) : ∃ rest, matchAt s = some (w, rest) :=
  let ⟨rest, he⟩ := h
  ⟨rest, matchAt_eq_some.2 ⟨hw, he.symm⟩⟩

/-- An order of first occurrences in `s` holds in `c :: s` for a name not matched at `c`. -/
theorem FirstBefore.cons {s : List Char} {c : Char} {w₁ w₂ : String} (h : FirstBefore s w₁ w₂)
    (hw : isVarName w₂) (hm : ∀ rest, matchAt (c :: s) ≠ some (w₂, rest)) :
    FirstBefore (c :: s) w₁ w₂ := by
  obtain ⟨i, hi, hj⟩ := h
  refine ⟨i + 1, hi, fun j hji hoc => ?_⟩
  cases j with
  | zero => obtain ⟨rest, hr⟩ := matchAt_of_occursAt hw hoc; exact hm rest hr
  | succ j => exact hj j (by omega) hoc

/-- **The names come in the order of their first placeholders.** -/
theorem firstOccurrences_wordsAt_pairwise :
    ∀ s : List Char, (firstOccurrences (wordsAt s)).Pairwise (FirstBefore s)
  | [] => List.Pairwise.nil
  | c :: s => by
    have ih := firstOccurrences_wordsAt_pairwise s
    have hname : ∀ w ∈ firstOccurrences (wordsAt s), isVarName w := fun w hw =>
      (mem_wordsAt.1 (mem_firstOccurrences.1 hw)).1
    cases hm : matchAt (c :: s) with
    | none =>
      simp only [wordsAt, hm, Option.map_none', Option.toList_none, List.nil_append]
      exact ih.imp_of_mem fun _ hw₂ h => h.cons (hname _ hw₂) fun rest hr => by simp [hm] at hr
    | some m =>
      obtain ⟨w, rest⟩ := m
      simp only [wordsAt, hm, Option.map_some', Option.toList_some, List.singleton_append,
        firstOccurrences]
      refine List.Pairwise.cons (fun w₂ hw₂ => ?_) ?_
      · obtain ⟨hw₂, hne⟩ := List.mem_filter.1 hw₂
        refine ⟨0, ⟨rest, ((matchAt_eq_some.1 hm).2).symm⟩, fun j hj hoc => ?_⟩
        obtain rfl : j = 0 := by omega
        obtain ⟨rest', hr⟩ := matchAt_of_occursAt (hname _ hw₂) hoc
        rw [hm] at hr
        simp only [Option.some.injEq, Prod.mk.injEq] at hr
        exact absurd hr.1.symm (by simpa using hne)
      · refine (ih.sublist (List.filter_sublist _)).imp_of_mem fun _ hw₂ h => ?_
        obtain ⟨hw₂, hne⟩ := List.mem_filter.1 hw₂
        refine h.cons (hname _ hw₂) fun rest' hr => ?_
        rw [hm] at hr
        simp only [Option.some.injEq, Prod.mk.injEq] at hr
        exact absurd hr.1.symm (by simpa using hne)

/-- **What `Validate` reports on a template made from content `c`**: exactly the names `\w+`
whose placeholder occurs in `c` and that are not keys of `vars`, each once, in the order of
their first placeholders in `c`; so nothing is missing iff every such placeholder has a value. -/
theorem validate_newTemplate (name : String) (channel : Channel) (c : String)
    (vars : List (String × String)) :
    (∀ w, w ∈ (newTemplate name channel c).validate vars ↔
      isVarName w ∧ (placeholder w).data <:+: c.data ∧ ∀ v, (w, v) ∉ vars) ∧
    ((newTemplate name channel c).validate vars).Nodup ∧
    ((newTemplate name channel c).validate vars).Pairwise (FirstBefore c.data) ∧
    ((newTemplate name channel c).validate vars = [] ↔
      ∀ w, isVarName w → (placeholder w).data <:+: c.data → ∃ v, (w, v) ∈ vars) := by
  have hmem : ∀ w, w ∈ (newTemplate name channel c).validate vars ↔
      isVarName w ∧ (placeholder w).data <:+: c.data ∧ ∀ v, (w, v) ∉ vars := fun w => by
    simp only [Template.validate, newTemplate, extractVariables_eq, List.mem_filter,
      mem_firstOccurrences, mem_wordsAt, Bool.not_eq_true', List.any_eq_false, beq_iff_eq,
      and_assoc]
    exact and_congr_right fun _ => and_congr_right fun _ =>
      ⟨fun h v hv => h _ hv rfl, fun h kv hkv hk => h kv.2 (hk ▸ hkv)⟩
  have hpw : ((newTemplate name channel c).validate vars).Pairwise (FirstBefore c.data) :=
    (firstOccurrences_wordsAt_pairwise c.data).sublist (by
      rw [Template.validate, newTemplate, extractVariables_eq]; exact List.filter_sublist _)
  refine ⟨hmem, hpw.imp fun ⟨i, hi, hj⟩ heq => hj i le_rfl (heq ▸ hi), hpw, ?_⟩
  rw [List.eq_nil_iff_forall_not_mem]
  refine forall_congr' fun w => ?_
  rw [hmem]
  by_cases hw : isVarName w
  · by_cases hin : (placeholder w).data <:+: c.data
    · simp [hw, hin]
    · simp [hw, hin]
  · simp [hw]

example : (newTemplate "welcome" .email
    ("Hi " ++ placeholder "name" ++ ", " ++ placeholder "code" ++ placeholder "name")).validate
      [("code", "42")] = ["name"] := by decide

end NotificationService
