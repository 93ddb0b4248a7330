/-
DamMonitoring.Persistence.ResourceTable — the `resource` table and the
operations of `DataManager` on it.

The table is the list of its rows in the order the database returns
them, with the two keys of the schema (`PRIMARY KEY (name)`, `UNIQUE KEY
(uri)`) as fields: no value of `ResourceTable` breaks them. Names and
types are compared by `fold`, which ignores case, so "OUTFLOW-1" finds
the row "outflow-1". Those of the motes are printable ASCII, where the
collation of the schema ignores case and nothing else.

  §1 rows, the table, `session.get`, queries by type
  §2 `setResourceValue`: which row it writes, and that it keeps keys
  §3 `addResources`: the registration transaction
-/
import DamMonitoring.Java.Basics
import Mathlib.Data.List.Nodup

namespace DamMonitoring.Persistence

open Java

/-! ## §1 The table -/

abbrev Uri : Type := String

/-- The entity `Resource`. -/
structure Resource where
  name : String
  type : String
  description : Option String
  tag : Option String
  uri : Uri
  value : Option Int
  deriving DecidableEq, Repr

structure ResourceTable where
  rows : List Resource
  names_nodup : (rows.map fun r => fold r.name).Nodup
  uris_nodup : (rows.map Resource.uri).Nodup

namespace ResourceTable

def empty : ResourceTable := ⟨[], List.nodup_nil, List.nodup_nil⟩

/-- `session.get(Resource.class, resName)`. -/
def get (t : ResourceTable) (resName : String) : Option Resource :=
  t.rows.find? fun r => equalsIgnoreCase r.name resName

/-- `from Resource where type = …`. -/
def ofType (t : ResourceTable) (type : String) : List Resource :=
  t.rows.filter fun r => equalsIgnoreCase r.type type

/-- The rows of `gateResources` and `alarmResources`. -/
def gates (t : ResourceTable) : List Resource := t.ofType "gate"

def alarms (t : ResourceTable) : List Resource := t.ofType "alarm"

/-- The registered value of a name, if the row exists and is not null. -/
def value (t : ResourceTable) (resName : String) : Option Int :=
  (t.get resName).bind Resource.value

/-- The registered URI of a name. -/
def uri (t : ResourceTable) (resName : String) : Option Uri :=
  (t.get resName).map Resource.uri

variable {t : ResourceTable} {r r' : Resource} {resName : String}

theorem get_mem (h : t.get resName = some r) : r ∈ t.rows := List.mem_of_find?_eq_some h

theorem get_name (h : t.get resName = some r) : fold r.name = fold resName := by
  have heq := List.find?_some (p := fun r : Resource => equalsIgnoreCase r.name resName) h
  exact equalsIgnoreCase_iff.mp heq

theorem eq_of_fold_name (hr : r ∈ t.rows) (hr' : r' ∈ t.rows)
    (h : fold r.name = fold r'.name) : r = r' :=
  List.inj_on_of_nodup_map t.names_nodup hr hr' h

theorem eq_of_uri (hr : r ∈ t.rows) (hr' : r' ∈ t.rows) (h : r.uri = r'.uri) : r = r' :=
  List.inj_on_of_nodup_map t.uris_nodup hr hr' h

/-- Looking a row up by its own name finds the row. -/
theorem get_of_mem (hr : r ∈ t.rows) : t.get r.name = some r := by
  cases h : t.get r.name with
  | none =>
    have := List.find?_eq_none.mp h r hr
    simp at this
  | some r' => rw [eq_of_fold_name (get_mem h) hr (get_name h)]

theorem uri_of_mem (hr : r ∈ t.rows) : t.uri r.name = some r.uri := by
  simp [uri, get_of_mem hr]

theorem value_of_mem (hr : r ∈ t.rows) : t.value r.name = r.value := by
  simp [value, get_of_mem hr]

/-- A name is looked up without regard to case. -/
theorem get_congr {name : String} (h : fold resName = fold name) : t.get resName = t.get name := by
  simp [get, equalsIgnoreCase, h]

theorem uri_congr {name : String} (h : fold resName = fold name) : t.uri resName = t.uri name := by
  rw [uri, get_congr h, uri]

theorem value_congr {name : String} (h : fold resName = fold name) :
    t.value resName = t.value name := by
  rw [value, get_congr h, value]

/-- A row is found under every spelling of its name. -/
theorem uri_of_fold_name (hr : r ∈ t.rows) {name : String} (h : fold r.name = fold name) :
    t.uri name = some r.uri := by
  rw [← uri_congr h, uri_of_mem hr]

/-- A name that has a URI has a row. -/
theorem exists_of_uri {u : Uri} (h : t.uri resName = some u) :
    ∃ r ∈ t.rows, r.uri = u ∧ fold r.name = fold resName := by
  obtain ⟨r, hr, rfl⟩ := Option.map_eq_some_iff.mp h
  exact ⟨r, get_mem hr, rfl, get_name hr⟩

theorem mem_ofType {type : String} :
    r ∈ t.ofType type ↔ r ∈ t.rows ∧ fold r.type = fold type := by
  simp [ofType, equalsIgnoreCase_iff]

theorem mem_of_gate (h : r ∈ t.gates) : r ∈ t.rows := (mem_ofType.mp h).1

theorem mem_of_alarm (h : r ∈ t.alarms) : r ∈ t.rows := (mem_ofType.mp h).1

/-- Two rows that share neither key. -/
def Distinct (r r' : Resource) : Prop := fold r.name ≠ fold r'.name ∧ r.uri ≠ r'.uri

theorem distinct_of_ne (hr : r ∈ t.rows) (hr' : r' ∈ t.rows) (h : r ≠ r') : Distinct r r' :=
  ⟨fun hn => h (eq_of_fold_name hr hr' hn), fun hu => h (eq_of_uri hr hr' hu)⟩

theorem ofType_distinct (t : ResourceTable) (type : String) :
    (t.ofType type).Pairwise Distinct := by
  have hnodup : (t.ofType type).Nodup := (List.Nodup.of_map _ t.uris_nodup).filter _
  exact hnodup.imp_of_mem fun hr hr' hne =>
    distinct_of_ne (mem_ofType.mp hr).1 (mem_ofType.mp hr').1 hne

theorem gate_ne_alarm (hg : r ∈ t.gates) (ha : r' ∈ t.alarms) : r ≠ r' := by
  rintro rfl
  have h := (mem_ofType.mp hg).2.symm.trans (mem_ofType.mp ha).2
  exact absurd h (by decide)

/-- A gate and an alarm share neither key. -/
theorem gate_distinct_alarm (hg : r ∈ t.gates) (ha : r' ∈ t.alarms) : Distinct r r' :=
  distinct_of_ne (mem_of_gate hg) (mem_of_alarm ha) (gate_ne_alarm hg ha)

theorem Distinct.symm (h : Distinct r r') : Distinct r' r := ⟨h.1.symm, h.2.symm⟩

/-! ## §2 setResourceValue -/

/-- The row after `UPDATE Resource r SET r.value = v WHERE r.name = resName`. -/
def updateRow (resName : String) (v : Int) (r : Resource) : Resource :=
  if equalsIgnoreCase r.name resName then { r with value := some v } else r

@[simp] theorem updateRow_name (v : Int) (r : Resource) : (updateRow resName v r).name = r.name := by
  unfold updateRow; split <;> rfl

@[simp] theorem updateRow_type (v : Int) (r : Resource) : (updateRow resName v r).type = r.type := by
  unfold updateRow; split <;> rfl

@[simp] theorem updateRow_tag (v : Int) (r : Resource) : (updateRow resName v r).tag = r.tag := by
  unfold updateRow; split <;> rfl

@[simp] theorem updateRow_uri (v : Int) (r : Resource) : (updateRow resName v r).uri = r.uri := by
  unfold updateRow; split <;> rfl

/-- `setResourceValue(resName, v)`. -/
def setValue (t : ResourceTable) (resName : String) (v : Int) : ResourceTable where
  rows := t.rows.map (updateRow resName v)
  names_nodup := by simpa [Function.comp_def] using t.names_nodup
  uris_nodup := by simpa [Function.comp_def] using t.uris_nodup

/-- Every row of the new table was there before, but for its value. -/
theorem mem_setValue {v : Int} (h : r' ∈ (t.setValue resName v).rows) :
    ∃ r ∈ t.rows, r.name = r'.name ∧ r.type = r'.type ∧ r.uri = r'.uri := by
  obtain ⟨r, hr, rfl⟩ := List.mem_map.mp h
  exact ⟨r, hr, by simp, by simp, by simp⟩

theorem get_setValue (t : ResourceTable) (resName name : String) (v : Int) :
    (t.setValue resName v).get name = (t.get name).map (updateRow resName v) := by
  simp only [get, setValue, List.find?_map, Function.comp_def, updateRow_name]

/-- Writing a value moves no resource. -/
@[simp] theorem uri_setValue (t : ResourceTable) (resName name : String) (v : Int) :
    (t.setValue resName v).uri name = t.uri name := by
  simp [uri, get_setValue, Function.comp_def]

/-- The written row shows the value. -/
theorem value_setValue_self {u : Uri} (h : t.uri resName = some u) {name : String}
    (hn : fold name = fold resName) (v : Int) :
    (t.setValue resName v).value name = some v := by
  have hget : t.get name = t.get resName := by simp [get, equalsIgnoreCase, hn]
  obtain ⟨r, hr, -⟩ := Option.map_eq_some_iff.mp h
  have heq : equalsIgnoreCase r.name resName = true := equalsIgnoreCase_iff.mpr (get_name hr)
  simp [value, get_setValue, hget, hr, updateRow, heq]

/-- Every other row keeps its value. -/
theorem value_setValue_of_ne (t : ResourceTable) {resName name : String}
    (hn : fold name ≠ fold resName) (v : Int) :
    (t.setValue resName v).value name = t.value name := by
  cases h : t.get name with
  | none => simp [value, get_setValue, h]
  | some r =>
    have hne : equalsIgnoreCase r.name resName = false := by
      simpa [equalsIgnoreCase, get_name h] using hn
    simp [value, get_setValue, h, updateRow, hne]

theorem updateRow_of_ne {v : Int} (h : fold r.name ≠ fold resName) : updateRow resName v r = r := by
  have hne : equalsIgnoreCase r.name resName = false := by simpa [equalsIgnoreCase] using h
  simp [updateRow, hne]

theorem ofType_setValue (t : ResourceTable) (type resName : String) (v : Int) :
    (t.setValue resName v).ofType type = (t.ofType type).map (updateRow resName v) := by
  simp [ofType, setValue, List.filter_map, Function.comp_def]

/-- Writing a row of another type changes no row of this type. -/
theorem ofType_setValue_of_ne {type : String}
    (h : ∀ q ∈ t.ofType type, fold q.name ≠ fold resName) (v : Int) :
    (t.setValue resName v).ofType type = t.ofType type := by
  rw [ofType_setValue]
  conv_rhs => rw [← List.map_id (t.ofType type)]
  exact List.map_congr_left fun q hq => updateRow_of_ne (h q hq)

/-! ## §3 addResources -/

/-- `session.saveOrUpdate(resource)`: the row of that name is replaced,
and keeps its name; without one the resource is a new row. -/
def saveOrUpdate (rows : List Resource) (resource : Resource) : List Resource :=
  if rows.any fun r => equalsIgnoreCase r.name resource.name then
    rows.map fun r =>
      if equalsIgnoreCase r.name resource.name then { resource with name := r.name } else r
  else rows ++ [resource]

/-- `addResources`: the whole list in one transaction, rolled back
(`none`) if the outcome breaks a key of the table. -/
def addResources (t : ResourceTable) (resources : List Resource) : Option ResourceTable :=
  let rows := resources.foldl saveOrUpdate t.rows
  if h : (rows.map fun r => fold r.name).Nodup ∧ (rows.map Resource.uri).Nodup then
    some ⟨rows, h.1, h.2⟩
  else none

/-- Every row after a save is an old one or carries the saved data. -/
theorem mem_saveOrUpdate {rows : List Resource} {resource : Resource}
    (h : r ∈ saveOrUpdate rows resource) :
    r ∈ rows ∨ ∃ name, r = { resource with name } := by
  unfold saveOrUpdate at h
  split at h
  · obtain ⟨x, hx, rfl⟩ := List.mem_map.mp h
    split
    · exact Or.inr ⟨x.name, rfl⟩
    · exact Or.inl hx
  · rcases List.mem_append.mp h with h | h
    · exact Or.inl h
    · exact Or.inr ⟨r.name, by rw [List.mem_singleton.mp h]⟩

theorem mem_foldl_saveOrUpdate (resources : List Resource) :
    ∀ {rows : List Resource}, r ∈ resources.foldl saveOrUpdate rows →
      r ∈ rows ∨ ∃ resource ∈ resources, ∃ name, r = { resource with name } := by
  induction resources with
  | nil => exact fun h => Or.inl h
  | cons resource resources ih =>
    intro rows h
    rcases ih h with h | ⟨x, hx, hname⟩
    · rcases mem_saveOrUpdate h with h | h
      · exact Or.inl h
      · exact Or.inr ⟨resource, List.mem_cons_self, h⟩
    · exact Or.inr ⟨x, List.mem_cons_of_mem _ hx, hname⟩

/-- Every row after a registration is an old one or carries the data of a
registered resource. -/
theorem mem_addResources {t' : ResourceTable} {resources : List Resource}
    (h : t.addResources resources = some t') (hr : r ∈ t'.rows) :
    r ∈ t.rows ∨ ∃ resource ∈ resources, ∃ name, r = { resource with name } := by
  simp only [addResources] at h
  split at h
  · cases h
    exact mem_foldl_saveOrUpdate resources hr
  · cases h

/-- A saved resource has a row. -/
theorem exists_saveOrUpdate (rows : List Resource) (resource : Resource) :
    ∃ name, { resource with name } ∈ saveOrUpdate rows resource ∧ fold name = fold resource.name := by
  unfold saveOrUpdate
  split
  · next hany =>
    obtain ⟨r, hr, hname⟩ := List.any_eq_true.mp hany
    exact ⟨r.name, List.mem_map.mpr ⟨r, hr, if_pos hname⟩, equalsIgnoreCase_iff.mp hname⟩
  · exact ⟨resource.name, by simp, rfl⟩

/-- Other rows stay. -/
theorem mem_saveOrUpdate_of_ne {rows : List Resource} {resource : Resource} (hr : r ∈ rows)
    (h : fold r.name ≠ fold resource.name) : r ∈ saveOrUpdate rows resource := by
  unfold saveOrUpdate
  split
  · refine List.mem_map.mpr ⟨r, hr, if_neg fun heq => ?_⟩
    exact h (equalsIgnoreCase_iff.mp heq)
  · exact List.mem_append_left _ hr

theorem mem_foldl_saveOrUpdate_of_ne (resources : List Resource) {rows : List Resource}
    (hr : r ∈ rows) (h : ∀ resource ∈ resources, fold r.name ≠ fold resource.name) :
    r ∈ resources.foldl saveOrUpdate rows := by
  induction resources generalizing rows with
  | nil => exact hr
  | cons resource resources ih =>
    exact ih (mem_saveOrUpdate_of_ne hr (h resource List.mem_cons_self))
      fun x hx => h x (List.mem_cons_of_mem resource hx)

/-- Where nobody else holds its URI, a resource is saved without breaking
a key. -/
theorem saveOrUpdate_pairwise {rows : List Resource} (h : rows.Pairwise Distinct)
    {resource : Resource}
    (hfree : ∀ r ∈ rows, r.uri = resource.uri → fold r.name = fold resource.name) :
    (saveOrUpdate rows resource).Pairwise Distinct := by
  unfold saveOrUpdate
  split
  · refine List.pairwise_map.mpr (h.imp_of_mem fun {a b} ha hb hdistinct => ?_)
    obtain ⟨hname, huri⟩ := hdistinct
    split
    · next hsame =>
      have ha' := equalsIgnoreCase_iff.mp hsame
      have hb' : fold b.name ≠ fold resource.name := fun heq => hname (ha'.trans heq.symm)
      rw [if_neg fun heq => hb' (equalsIgnoreCase_iff.mp heq)]
      exact ⟨hname, fun heq => hb' (hfree b hb heq.symm)⟩
    · next hother =>
      have ha' : fold a.name ≠ fold resource.name := fun heq => hother (equalsIgnoreCase_iff.mpr heq)
      split
      · exact ⟨hname, fun heq => ha' (hfree a ha heq)⟩
      · exact ⟨hname, huri⟩
  · next hnone =>
    have hother : ∀ r ∈ rows, fold r.name ≠ fold resource.name := fun r hr heq =>
      hnone (List.any_eq_true.mpr ⟨r, hr, equalsIgnoreCase_iff.mpr heq⟩)
    refine List.pairwise_append.mpr ⟨h, List.pairwise_singleton _ _, fun r hr q hq => ?_⟩
    obtain rfl := List.mem_singleton.mp hq
    exact ⟨hother r hr, fun heq => hother r hr (hfree r hr heq)⟩

theorem foldl_saveOrUpdate_pairwise {resources : List Resource}
    (hdistinct : resources.Pairwise Distinct) {rows : List Resource} (h : rows.Pairwise Distinct)
    (hfree : ∀ r ∈ rows, ∀ x ∈ resources, r.uri = x.uri → fold r.name = fold x.name) :
    (resources.foldl saveOrUpdate rows).Pairwise Distinct := by
  induction resources generalizing rows with
  | nil => exact h
  | cons resource resources ih =>
    obtain ⟨hfirst, hrest⟩ := List.pairwise_cons.mp hdistinct
    have hsave := saveOrUpdate_pairwise h fun r hr => hfree r hr resource List.mem_cons_self
    refine ih hrest hsave fun r hr x hx huri => ?_
    rcases mem_saveOrUpdate hr with hold | ⟨name, rfl⟩
    · exact hfree r hold x (List.mem_cons_of_mem resource hx) huri
    · exact absurd huri (hfirst x hx).2

/-- **A registration is stored** where the URIs it names belong to nobody
else: each resource is found under its name, and other rows stay. -/
theorem addResources_of_free (t : ResourceTable) {resources : List Resource}
    (hdistinct : resources.Pairwise Distinct)
    (hfree : ∀ r ∈ t.rows, ∀ x ∈ resources, r.uri = x.uri → fold r.name = fold x.name) :
    ∃ t', t.addResources resources = some t' ∧
      ∀ r ∈ t.rows, (∀ x ∈ resources, fold r.name ≠ fold x.name) → r ∈ t'.rows := by
  have hrows : t.rows.Pairwise Distinct :=
    (List.pairwise_map.mp t.names_nodup).and (List.pairwise_map.mp t.uris_nodup)
  have hkeys := foldl_saveOrUpdate_pairwise hdistinct hrows hfree
  have hnames := List.pairwise_map.mpr (hkeys.imp And.left)
  have huris := List.pairwise_map.mpr (hkeys.imp And.right)
  exact ⟨_, dif_pos ⟨hnames, huris⟩, fun r hr hother =>
    mem_foldl_saveOrUpdate_of_ne resources hr hother⟩

/-- **A registered resource is found under its name**, if the message
names it once. -/
theorem get_addResources {t' : ResourceTable} {resources : List Resource}
    (h : t.addResources resources = some t')
    (hdistinct : resources.Pairwise fun r r' => fold r.name ≠ fold r'.name)
    {resource : Resource} (hr : resource ∈ resources) :
    ∃ name, t'.get resource.name = some { resource with name } := by
  have hrow : ∀ rows, ∃ name, { resource with name } ∈ resources.foldl saveOrUpdate rows ∧
      fold name = fold resource.name := by
    clear h
    induction resources with
    | nil => cases hr
    | cons first resources ih =>
      intro rows
      obtain ⟨hfirst, hrest⟩ := List.pairwise_cons.mp hdistinct
      rcases List.mem_cons.mp hr with rfl | hr
      · obtain ⟨name, hmem, hname⟩ := exists_saveOrUpdate rows resource
        refine ⟨name, mem_foldl_saveOrUpdate_of_ne resources hmem fun x hx => ?_, hname⟩
        rw [hname]
        exact hfirst x hx
      · exact ih hrest hr _
  obtain ⟨name, hmem, hname⟩ := hrow t.rows
  simp only [addResources] at h
  split at h
  · cases h
    refine ⟨name, ?_⟩
    rw [← get_congr hname]
    exact get_of_mem (r := { resource with name }) hmem
  · cases h

theorem uri_addResources {t' : ResourceTable} {resources : List Resource}
    (h : t.addResources resources = some t')
    (hdistinct : resources.Pairwise fun r r' => fold r.name ≠ fold r'.name)
    {resource : Resource} (hr : resource ∈ resources) :
    t'.uri resource.name = some resource.uri := by
  obtain ⟨name, hget⟩ := get_addResources h hdistinct hr
  simp [uri, hget]

theorem value_addResources {t' : ResourceTable} {resources : List Resource}
    (h : t.addResources resources = some t')
    (hdistinct : resources.Pairwise fun r r' => fold r.name ≠ fold r'.name)
    {resource : Resource} (hr : resource ∈ resources) :
    t'.value resource.name = resource.value := by
  obtain ⟨name, hget⟩ := get_addResources h hdistinct hr
  simp [value, hget]

end ResourceTable

end DamMonitoring.Persistence
