import MicrosandboxCloud.Spec

/-!
# Microsandbox — what a row that needs no re-creation says

`requiresRecreate` compares JSON texts. Since a text determines its value, a row that it keeps
agrees with the spec column by column.

* **`SamePort`** — bindings that agree but for the order of their keys.
* **`Unchanged`** — row and spec agree; `requiresRecreate_eq_false` is the inversion.
-/

namespace Microsandbox

open Text

/-! ## Records are determined by their JSON values

`JSON.stringify` leaves out the fields that are `undefined`, so that two records have one text
exactly when they have the same fields with the same values. For each record type this is
injectivity of `toJson`, read off field by field through `lookup`. -/

/-- A property is in the object under its own key and under no other. -/
theorem lookup_jsonProperty (key k : String) (value : Option Json) :
    (jsonProperty key value).lookup k = if k == key then value else none := by
  cases value with
  | none => simp [jsonProperty]
  | some v =>
    rw [jsonProperty, List.lookup_cons]
    cases k == key <;> rfl

/-- An absent, a null and a present field have three kinds of text, and a present one determines its
value, since no value is itself written as null. -/
theorem jsonField_inj {α : Type} {f : α → Json} (hf : Function.Injective f)
    (hnull : ∀ a, f a ≠ .null) {x y : Field α} (h : jsonField f x = jsonField f y) : x = y := by
  rcases x with _ | _ | a <;> rcases y with _ | _ | b <;> simp only [jsonField] at h
  · rfl
  · cases h
  · cases h
  · cases h
  · rfl
  · exact absurd (Option.some.inj h).symm (hnull b)
  · cases h
  · exact absurd (Option.some.inj h) (hnull a)
  · rw [hf (Option.some.inj h)]

theorem str_injective : Function.Injective Json.str := fun _ _ h => Json.str.inj h

theorem bool_injective : Function.Injective Json.bool := fun _ _ h => Json.bool.inj h

/-- A JSON array of strings determines the list. -/
theorem jsonStrings_injective : Function.Injective jsonStrings := fun _ _ h =>
  List.map_injective_iff.mpr str_injective (Json.arr.inj h)

theorem Protocol.toJson_injective : Function.Injective Protocol.toJson := by
  intro p q h
  cases p <;> cases q <;> first | rfl | (simp [Protocol.toJson] at h)

/-- A stored mount is determined by its JSON object, which has all four fields. -/
theorem RuntimeVolumeMountRecord.toJson_injective :
    Function.Injective RuntimeVolumeMountRecord.toJson := by
  intro m n h
  cases m
  cases n
  simpa [RuntimeVolumeMountRecord.toJson, and_assoc] using h

/-- A stored secret is determined by its JSON object, each of the optional injection flags included.
-/
theorem RuntimeSecretRecord.toJson_injective : Function.Injective RuntimeSecretRecord.toJson := by
  intro s t h
  have hlookup : ∀ key, _ = _ := fun key => congrArg (List.lookup key) (Json.obj.inj h)
  simp only [List.lookup_append, lookup_jsonProperty, List.lookup_cons, List.lookup_nil]
    at hlookup
  -- equal objects agree at every key, an absent one included
  have henv := hlookup "env"
  have hvalue := hlookup "value"
  have hplaceholder := hlookup "placeholder"
  have hhosts := hlookup "allowedHosts"
  have hpatterns := hlookup "allowedHostPatterns"
  have hdangerous := hlookup "allowAnyHostDangerous"
  have htls := hlookup "requireTlsIdentity"
  have hheaders := hlookup "injectHeaders"
  have hbasic := hlookup "injectBasicAuth"
  have hquery := hlookup "injectQuery"
  have hbody := hlookup "injectBody"
  simp at henv hvalue hplaceholder hhosts hpatterns hdangerous htls hheaders hbasic hquery hbody
  -- an absent property is read back as an absent field
  have hstr : ∀ {x y : Field String}, jsonField Json.str x = jsonField Json.str y → x = y :=
    jsonField_inj str_injective (by simp)
  have hbool : ∀ {x y : Field Bool}, jsonField Json.bool x = jsonField Json.bool y → x = y :=
    jsonField_inj bool_injective (by simp)
  cases s
  cases t
  simp only [RuntimeSecretRecord.mk.injEq]
  exact ⟨henv, hvalue, hstr hplaceholder, jsonStrings_injective hhosts,
    jsonStrings_injective hpatterns, hbool hdangerous, hbool htls, hbool hheaders, hbool hbasic,
    hbool hquery, hbool hbody⟩

/-- The bindings agree; the order of their keys may differ. -/
structure SamePort (a b : RuntimePortBindingRecord) : Prop where
  name : a.name = b.name
  containerPort : a.containerPort = b.containerPort
  hostPort : a.hostPort = b.hostPort
  protocol : a.protocol = b.protocol

/-- Equal texts give equal bindings but for the place of the name in the text. The host port is left
out of `SamePort`, since the spec is put on the host ports of the row before it is compared. -/
theorem samePort_of_toJson {a b : RuntimePortBindingRecord} (h : a.toJson = b.toJson) :
    SamePort a b := by
  rcases a with ⟨_ | n, c, p, q, _ | _⟩ <;> rcases b with ⟨_ | n', c', p', q', _ | _⟩ <;>
    simp only [RuntimePortBindingRecord.toJson, jsonProperty, Option.map_none, Option.map_some,
      Json.obj.injEq, if_true, if_false, Bool.false_eq_true, List.cons_append, List.nil_append,
      List.append_nil, List.cons.injEq, Prod.mk.injEq, true_and, and_true, Json.num.injEq,
      Json.str.injEq, reduceCtorEq, and_false, false_and, String.reduceEq] at h
  all_goals first
    | (obtain ⟨rfl, rfl, hprotocol⟩ := h
       exact ⟨rfl, rfl, rfl, Protocol.toJson_injective hprotocol⟩)
    | (obtain ⟨rfl, rfl, rfl, hprotocol⟩ := h
       exact ⟨rfl, rfl, rfl, Protocol.toJson_injective hprotocol⟩)
    | (obtain ⟨rfl, rfl, hprotocol, rfl⟩ := h
       exact ⟨rfl, rfl, rfl, Protocol.toJson_injective hprotocol⟩)

/-- Lists of ports are compared at the same positions. Induction on both lists. -/
theorem samePorts_of_toJson {as bs : List RuntimePortBindingRecord}
    (h : as.map (·.toJson) = bs.map (·.toJson)) : List.Forall₂ SamePort as bs := by
  induction as generalizing bs with
  | nil =>
    cases bs with
    | nil => exact .nil
    | cons b bs => simp at h
  | cons a as ih =>
    cases bs with
    | nil => simp at h
    | cons b bs =>
      simp only [List.map_cons, List.cons.injEq] at h
      exact .cons (samePort_of_toJson h.1) (ih h.2)

/-! ## The comparison

`requiresRecreate` compares the stored row with the spec one field at a time, most of them by their
JSON texts. When it finds no difference, every field it compares is the same, and this is what
`Unchanged` collects. -/

namespace RuntimeControl

/-- The row and the spec agree. -/
structure Unchanged (row : RuntimeEntity) (spec : RuntimeSpec) (name : Option String) : Prop where
  name : row.name = name
  image : row.image = spec.image
  command : row.command.getD [] = spec.command.getD []
  environment : row.environment.getD [] = spec.env
  secrets : row.secrets.getD [] = spec.secrets
  workingDir : row.workingDir = spec.workingDir
  ports : List.Forall₂ SamePort row.portBindings (onRowPorts row spec.ports)
  mounts : row.mounts.getD [] = spec.mounts
  isPublic : row.isPublic = spec.isPublic
  cpu : row.cpu = spec.cpu
  memoryMiB : row.memoryMiB = spec.memoryMiB
  diskGiB : row.diskGiB = spec.diskGiB
  autoStopMinutes : row.autoStopMinutes = spec.autoStopMinutes
  ephemeral : row.ephemeral = spec.ephemeral

/-- Equal texts are those of equal JSON values. -/
theorem textsDiffer_eq_false {a b : Json} (h : textsDiffer a b = false) : a = b :=
  Json.stringify_inj (by simpa [textsDiffer] using h)

/-- Each conjunct of `requiresRecreate` that is false gives one field of `Unchanged`. -/
theorem requiresRecreate_eq_false {row : RuntimeEntity} {spec : RuntimeSpec}
    {name : Option String} (h : requiresRecreate row spec name = false) :
    Unchanged row spec name := by
  simp only [requiresRecreate, Bool.or_eq_false_iff, bne_eq_false_iff_eq, Bool.not_eq_false'] at h
  obtain ⟨⟨⟨⟨⟨⟨⟨⟨⟨⟨⟨⟨⟨hname, himage⟩, hcommand⟩, henv⟩, hsecrets⟩, hworkingDir⟩, hports⟩, hmounts⟩,
    hpublic⟩, hcpu⟩, hmemory⟩, hdisk⟩, hautoStop⟩, hephemeral⟩ := h
  have hcommand := jsonStrings_injective (textsDiffer_eq_false hcommand)
  have henv := Json.obj.inj (textsDiffer_eq_false henv)
  have hsecrets := List.map_injective_iff.mpr RuntimeSecretRecord.toJson_injective
    (Json.arr.inj (textsDiffer_eq_false hsecrets))
  have hports := samePorts_of_toJson (Json.arr.inj (Json.stringify_inj (beq_iff_eq.mp hports)))
  have hmounts := List.map_injective_iff.mpr RuntimeVolumeMountRecord.toJson_injective
    (Json.arr.inj (Json.stringify_inj (beq_iff_eq.mp hmounts)))
  exact ⟨hname, himage, hcommand, henv, hsecrets, hworkingDir, hports, hmounts, hpublic, hcpu,
    hmemory, hdisk, hautoStop, hephemeral⟩

/-- A row that is kept has as many bindings as the spec has ports. -/
theorem Unchanged.ports_length {row : RuntimeEntity} {spec : RuntimeSpec} {name : Option String}
    (h : Unchanged row spec name) : row.portBindings.length = spec.ports.length := by
  simpa [onRowPorts] using h.ports.length_eq

end RuntimeControl

end Microsandbox
