import FrameHost.Proofs.Step.Boot
import FrameHost.Perform

/-!
# What a template resolves to

A template is resolved along those that it inherits from. The catalog goes along them with a list of names that
it has yet to visit; bases are put in front of it, and what has been visited is passed over. Here that walk is
shown to be the recursive one (`Catalog.Preorder`): a template comes first, then what its first base leads to,
then what its second leads to that has not been visited, and so on, whatever loops and shared bases there are.
Laying templates over their bases from the far end is the same as looking for the first that says something.

* `Catalog.Preorder`: the order in which templates are visited; `Catalog.Preorder.unique`: there is one.
* `Catalog.walk_preorder`: **the walk goes in that order**.
* `TemplateInfo.ofChain_resolved`: what is laid over from the far end is what is found first.
* `Catalog.Built`: a catalog that has come about by registering, loading and asking.
* `Catalog.Remembers`: what is remembered is what the definitions say.
* `Session.TemplatesWork`: the commands of a session build its catalog.
* `Catalog.Built.resolves`: **what is asked for is what the definitions say now, in that order**.
-/

namespace FrameHost

/-! ## Templates -/

namespace TemplateInfo

variable {data : Entries} {chain : List Entries} {field : String}

/-- The type that a template names, if there is such a type. -/
def typeOf? (data : Entries) : Option WidgetType := (Entries.field? data "type").bind WidgetType.ofValue?

/-- What a template says of a size, if it says anything. -/
def sizeOf? (field : String) (data : Entries) : Option Value := (Entries.field? data field).filter Value.isTrue

/-- Whether what a template says of its sizes converts to numbers. -/
def Sized (data : Entries) : Prop :=
  ∀ field ∈ ["width", "height"], ∀ v, sizeOf? field data = some v → ∃ x, v.toFloat = .ok x

/-- What the first template that says something of a size says, as a number; zero when none does. -/
def firstSize (chain : List Entries) (field : String) : Except Fault Float :=
  match chain.findSome? (sizeOf? field) with
  | some v => v.toFloat
  | none => .ok 0.0

/-- What the templates of a chain say: for each field the first that says something of it. -/
structure Resolved (chain : List Entries) (info : TemplateInfo) : Prop where
  type : info.type = (chain.findSome? typeOf?).getD .frame
  width : firstSize chain "width" = .ok info.width
  height : firstSize chain "height" = .ok info.height

theorem ofChain_cons (data : Entries) (chain : List Entries) :
    ofChain (data :: chain) = ofChain chain >>= (overlay · data) := by
  simp only [ofChain, List.reverse_cons, List.foldlM_append, List.foldlM_cons, List.foldlM_nil, bind_pure]

theorem sizeOver_of_none (h : sizeOf? field data = none) (base : Float) :
    sizeOver data field base = .ok base := by
  unfold sizeOf? at h
  unfold sizeOver
  cases hv : Entries.field? data field with
  | none => rfl
  | some v =>
    rw [hv] at h
    have hfalse : ¬ v.isTrue = true := Option.filter_eq_none_iff.1 h v rfl
    exact if_neg hfalse

theorem sizeOver_of_some {v : Value} (h : sizeOf? field data = some v) (base : Float) :
    sizeOver data field base = v.toFloat := by
  obtain ⟨hv, htrue⟩ := Option.filter_eq_some_iff.1 h
  unfold sizeOver
  rw [hv]
  exact if_pos htrue

/-- A size that is laid over the first of the rest is the first of all. -/
theorem sizeOver_firstSize {base : Float} (h : firstSize chain field = .ok base) :
    sizeOver data field base = firstSize (data :: chain) field := by
  unfold firstSize
  rw [List.findSome?_cons]
  cases hsize : sizeOf? field data with
  | none => exact (sizeOver_of_none hsize base).trans h.symm
  | some v => exact sizeOver_of_some hsize base

/-- **What is laid over from the far end is what is found first.** -/
theorem ofChain_resolved (h : ∀ data ∈ chain, Sized data) :
    ∃ info, ofChain chain = .ok info ∧ Resolved chain info := by
  induction chain with
  | nil => exact ⟨{}, rfl, rfl, rfl, rfl⟩
  | cons data chain ih =>
    obtain ⟨base, hbase, hresolved⟩ := ih fun d hd => h d (List.mem_cons_of_mem _ hd)
    have converts (field : String) (hf : field ∈ ["width", "height"]) {size : Float}
        (hsize : firstSize chain field = .ok size) : ∃ x, sizeOver data field size = .ok x := by
      cases hv : sizeOf? field data with
      | none => exact ⟨size, sizeOver_of_none hv size⟩
      | some v =>
        obtain ⟨x, hx⟩ := h data List.mem_cons_self field hf v hv
        exact ⟨x, (sizeOver_of_some hv size).trans hx⟩
    obtain ⟨width, hwidth⟩ := converts "width" List.mem_cons_self hresolved.width
    obtain ⟨height, hheight⟩ := converts "height" (.tail _ List.mem_cons_self) hresolved.height
    refine ⟨⟨(typeOf? data).getD base.type, width, height⟩, ?_, ?_, ?_, ?_⟩
    · rw [ofChain_cons, hbase]
      change overlay base data = _
      rw [overlay, hwidth, hheight]
      rfl
    · rw [List.findSome?_cons]
      cases typeOf? data with
      | none => exact hresolved.type
      | some type => rfl
    · rw [← sizeOver_firstSize hresolved.width, hwidth]
    · rw [← sizeOver_firstSize hresolved.height, hheight]

end TemplateInfo

namespace Catalog

variable {catalog catalog' : Catalog} {name : String} {seen seen' names names' order order' : List String}
  {data : Entries}

/-! ## What templates inherit from -/

/-- The names that a template inherits from. -/
def inherited (data : Entries) : Except Fault (List String) :=
  bases ((Entries.field? data "inherits").getD .null)

/-- Whether it can be read what a template inherits from. -/
def Readable (data : Entries) : Prop := ∃ names, inherited data = .ok names

instance (data : Entries) : Decidable (Readable data) :=
  match h : inherited data with
  | .ok names => .isTrue ⟨names, h⟩
  | .error _ => .isFalse fun ⟨_, hn⟩ => by cases h.symm.trans hn

/-! ## The order of visits -/

/-- Templates depth first: one comes before those that it inherits from, these in their order and each with all
that it leads to; what has been visited, and what is not registered, is passed over. -/
inductive Preorder (catalog : Catalog) : (seen names order : List String) → Prop
  | done {seen : List String} : Preorder catalog seen [] []
  | passed {seen names order : List String} {name : String}
      (h : name ∈ seen ∨ catalog.templates.get? name = none) (rest : Preorder catalog seen names order) :
      Preorder catalog seen (name :: names) order
  | visited {seen names bases below order : List String} {name : String} {data : Entries}
      (hs : name ∉ seen) (hd : catalog.templates.get? name = some data) (hb : inherited data = .ok bases)
      (first : Preorder catalog (name :: seen) bases below)
      (rest : Preorder catalog (below.reverse ++ name :: seen) names order) :
      Preorder catalog seen (name :: names) (name :: below ++ order)

/-- **There is one such order.** -/
theorem Preorder.unique (h : catalog.Preorder seen names order)
    (h' : catalog.Preorder seen names order') : order = order' := by
  induction h generalizing order' with
  | done => cases h'; rfl
  | passed hpass _ ih =>
    cases h' with
    | passed _ rest => exact ih rest
    | visited hs hd => exact absurd hpass (not_or.2 ⟨hs, fun hnone => by cases hd.symm.trans hnone⟩)
  | visited hs hd hb _ _ ihfirst ihrest =>
    cases h' with
    | passed hpass => exact absurd hpass (not_or.2 ⟨hs, fun hnone => by cases hd.symm.trans hnone⟩)
    | visited hs' hd' hb' first rest =>
      cases hd.symm.trans hd'
      cases hb.symm.trans hb'
      cases ihfirst first
      rw [ihrest rest]

/-- A name is visited once, and only when it is registered and has not been visited before. -/
theorem Preorder.fresh (h : catalog.Preorder seen names order) :
    order.Nodup ∧ ∀ name ∈ order, name ∉ seen ∧ catalog.contains name = true := by
  induction h with
  | done => exact ⟨List.nodup_nil, fun _ h => by cases h⟩
  | passed _ _ ih => exact ih
  | @visited seen names bases below order name data hs hd hb _ _ ihfirst ihrest =>
    obtain ⟨hbelow, hfirst⟩ := ihfirst
    obtain ⟨horder, hrest⟩ := ihrest
    have hname : catalog.contains name = true := by rw [Catalog.contains, Table.contains, hd]; rfl
    refine ⟨List.nodup_append.2 ⟨List.nodup_cons.2 ⟨?_, hbelow⟩, horder, ?_⟩, fun x hx => ?_⟩
    · exact fun hmem => (hfirst name hmem).1 List.mem_cons_self
    · rintro x hx y hy rfl
      refine (hrest x hy).1 ?_
      rcases List.mem_cons.1 hx with rfl | hx
      · exact List.mem_append_right _ List.mem_cons_self
      · exact List.mem_append_left _ (List.mem_reverse.2 hx)
    · rcases List.mem_append.1 hx with hx | hx
      · rcases List.mem_cons.1 hx with rfl | hx
        · exact ⟨hs, hname⟩
        · exact ⟨fun hmem => (hfirst x hx).1 (List.mem_cons_of_mem _ hmem), (hfirst x hx).2⟩
      · exact ⟨fun hmem => (hrest x hx).1 (List.mem_append_right _ (List.mem_cons_of_mem _ hmem)),
          (hrest x hx).2⟩

/-- A list of names is gone through in two parts, wherever it is cut. -/
theorem Preorder.cut (h : catalog.Preorder seen (names ++ names') order) : ∃ front back,
    order = front ++ back ∧ catalog.Preorder seen names front ∧
      catalog.Preorder (front.reverse ++ seen) names' back := by
  induction names generalizing seen order with
  | nil => exact ⟨[], order, rfl, .done, h⟩
  | cons name names ih =>
    cases h with
    | passed hpass rest =>
      obtain ⟨front, back, rfl, hfront, hback⟩ := ih rest
      exact ⟨front, back, rfl, .passed hpass hfront, hback⟩
    | @visited _ _ bases below _ _ _ hs hd hb first rest =>
      obtain ⟨front, back, rfl, hfront, hback⟩ := ih rest
      refine ⟨name :: below ++ front, back, (List.append_assoc ..).symm, .visited hs hd hb first hfront, ?_⟩
      rw [List.reverse_append, List.reverse_cons, List.append_assoc, List.append_assoc]
      exact hback

theorem mem_values_of_get? (h : catalog.templates.get? name = some data) :
    data ∈ catalog.templates.values := by
  obtain ⟨front, back, heq, -⟩ := List.lookup_eq_some_iff.1 h
  exact Table.mem_values.2 ⟨name, heq ▸ List.mem_append_right _ List.mem_cons_self⟩

/-- **A walk goes depth first**, as far as it can read what templates inherit from. -/
theorem walk_preorder (hread : ∀ data ∈ catalog.templates.values, Readable data)
    (names seen : List String) : ∃ order, catalog.Preorder seen names order ∧
      (catalog.walk names seen).2 = none ∧
      (catalog.walk names seen).1.filterMap Visit.data? = order.filterMap catalog.templates.get? := by
  fun_induction catalog.walk names seen with
  | case1 => exact ⟨[], .done, rfl, rfl⟩
  | case2 name pending seen hs ih =>
    obtain ⟨order, horder, hfault, hdata⟩ := ih
    exact ⟨order, .passed (.inl hs) horder, hfault, hdata⟩
  | case3 name pending seen hs hd visits fault heq ih =>
    obtain ⟨order, horder, hfault, hdata⟩ := ih
    rw [heq] at hfault hdata
    exact ⟨order, .passed (.inr hd) horder, hfault, hdata⟩
  | case4 name pending seen hs data hd fault hb =>
    obtain ⟨bases, hbases⟩ := hread data (mem_values_of_get? hd)
    cases hb.symm.trans hbases
  | case5 name pending seen hs data hd bases hb visits fault heq ih =>
    obtain ⟨order, horder, hfault, hdata⟩ := ih
    obtain ⟨below, rest, rfl, hbelow, hrest⟩ := horder.cut
    rw [heq] at hfault hdata
    refine ⟨name :: below ++ rest, .visited hs hd hb hbelow hrest, hfault, ?_⟩
    rw [List.cons_append, List.filterMap_cons_some hd, ← hdata]
    rfl

/-! ## Catalogs that are built -/

/-- A catalog that has come about from an empty one by registering and loading templates, and by asking what
templates resolve to in between. -/
inductive Built : Catalog → Prop
  | empty : Built {}
  | registered {catalog catalog' : Catalog} (h : Built catalog) {label : FrameId → String} {name data : Value}
      (hr : (catalog.register label name data).1 = some catalog') : Built catalog'
  | loaded {catalog : Catalog} (h : Built catalog) (label : FrameId → String) (filename : String)
      (config : Entries) : Built (catalog.takeIn label filename config).1
  | asked {catalog : Catalog} (h : Built catalog) (name : String) : Built (catalog.info name).2.1

/-- What is remembered is what the definitions say. -/
def Remembers (catalog : Catalog) : Prop :=
  ∀ name found, catalog.resolved.get? name = some found → (catalog.resolve name).1 = .ok found

theorem remembers_fresh (templates : Table String Entries) : Remembers ⟨templates, {}⟩ :=
  fun _ _ h => by cases h

/-- A template that is registered makes the catalog forget what it has resolved. -/
theorem exists_of_register {label : FrameId → String} {name data : Value}
    (h : (catalog.register label name data).1 = some catalog') :
    ∃ templates, catalog' = ⟨templates, {}⟩ := by
  unfold register at h
  split at h
  · split at h
    · cases h
    · split at h
      · cases h
        exact ⟨_, rfl⟩
      · cases h
  · cases h

/-- A walk looks at the definitions alone. -/
theorem walk_congr (templates : Table String Entries)
    (resolved resolved' : Table String (Option TemplateInfo)) (names seen : List String) :
    walk ⟨templates, resolved⟩ names seen = walk ⟨templates, resolved'⟩ names seen := by
  fun_induction walk ⟨templates, resolved⟩ names seen with
  | case1 => rw [walk]
  | case2 name pending seen hs ih => rw [walk, if_pos hs, ih]
  | case3 name pending seen hs hd visits fault heq ih =>
    rw [walk, if_neg hs]
    split
    · rw [← ih, heq]
    · next hd' => cases hd.symm.trans hd'
  | case4 name pending seen hs data hd fault hb =>
    rw [walk, if_neg hs]
    split
    · next hd' => cases hd.symm.trans hd'
    · next data' hd' =>
      cases hd.symm.trans hd'
      rw [hb]
  | case5 name pending seen hs data hd bases hb visits fault heq ih =>
    rw [walk, if_neg hs]
    split
    · next hd' => cases hd.symm.trans hd'
    · next data' hd' =>
      cases hd.symm.trans hd'
      rw [hb]
      dsimp only
      rw [← ih, heq]

theorem resolve_congr (templates : Table String Entries)
    (resolved resolved' : Table String (Option TemplateInfo)) (name : String) :
    resolve ⟨templates, resolved⟩ name = resolve ⟨templates, resolved'⟩ name := by
  unfold resolve
  rw [walk_congr templates resolved resolved']
  rfl

theorem Remembers.info_eq (h : catalog.Remembers) (name : String) :
    (catalog.info name).1 = (catalog.resolve name).1 := by
  unfold info
  cases hfound : catalog.resolved.get? name with
  | some found => exact (h name found hfound).symm
  | none =>
    dsimp only
    split
    · next found notes hr => rw [hr]
    · next fault notes hr => rw [hr]

/-- What is resolved is remembered as it was resolved. -/
theorem Remembers.info (h : catalog.Remembers) (name : String) : (catalog.info name).2.1.Remembers := by
  unfold Catalog.info
  cases hfound : catalog.resolved.get? name with
  | some found => exact h
  | none =>
    dsimp only
    split
    · next found notes hr =>
      intro name' found' hfound'
      rw [resolve_congr _ _ catalog.resolved]
      rw [Table.get?_insert] at hfound'
      split at hfound'
      · next heq =>
        cases eq_of_beq heq
        cases hfound'
        exact congrArg Prod.fst hr
      · exact h name' found' hfound'
    · exact h

theorem Remembers.registerAll (h : catalog.Remembers) (label : FrameId → String) (templates : Entries) :
    (catalog.registerAll label templates).1.Remembers := by
  unfold Catalog.registerAll
  refine List.foldlRecOn (motive := fun state : Catalog × Nat × List LoadNote => state.1.Remembers)
    templates _ h fun state hstate e _ => ?_
  dsimp only
  split
  · next catalog' more hr =>
    obtain ⟨templates, rfl⟩ := exists_of_register (congrArg Prod.fst hr)
    exact remembers_fresh templates
  · exact hstate

theorem Remembers.takeIn (h : catalog.Remembers) (label : FrameId → String) (filename : String)
    (config : Entries) : (catalog.takeIn label filename config).1.Remembers := by
  unfold Catalog.takeIn
  split
  · exact h.registerAll label _
  · exact h
  · exact h

/-- **A catalog remembers nothing but what its definitions say**, however it has come about. -/
theorem Built.remembers (h : catalog.Built) : catalog.Remembers := by
  induction h with
  | empty => exact remembers_fresh _
  | registered _ hr _ =>
    obtain ⟨templates, rfl⟩ := exists_of_register hr
    exact remembers_fresh templates
  | loaded _ label filename config ih => exact ih.takeIn label filename config
  | asked _ name ih => exact ih.info name

/-! ## What is asked for -/

/-- What asking for a template comes to: the same as when nothing is remembered; nothing when there is no such
template; and else what the templates say that come depth first, if their sizes convert to numbers. -/
structure Resolves (catalog : Catalog) (name : String) : Prop where
  uncached : (catalog.info name).1 = (Catalog.info ⟨catalog.templates, {}⟩ name).1
  unknown : (catalog.info name).1 = .ok none ↔ catalog.contains name = false
  known : catalog.contains name = true → ∃ order, catalog.Preorder [] [name] order ∧ order.Nodup ∧
    ((∀ data ∈ order.filterMap catalog.templates.get?, TemplateInfo.Sized data) →
      ∃ info, (catalog.info name).1 = .ok (some info) ∧
        TemplateInfo.Resolved (order.filterMap catalog.templates.get?) info)

theorem resolve_of_contains (h : catalog.contains name = true) (hread : (catalog.walk [name] []).2 = none) :
    (catalog.resolve name).1 =
      (TemplateInfo.ofChain ((catalog.walk [name] []).1.filterMap Visit.data?)).map some := by
  unfold resolve
  rw [if_pos h]
  dsimp only
  rw [hread]

theorem resolve_eq_none_iff : (catalog.resolve name).1 = .ok none ↔ catalog.contains name = false := by
  unfold resolve
  split
  · next h =>
    refine ⟨fun hnone => ?_, fun hnot => by cases h.symm.trans hnot⟩
    dsimp only at hnone
    split at hnone
    · cases hnone
    · cases hchain : TemplateInfo.ofChain ((catalog.walk [name] []).1.filterMap Visit.data?) with
      | error fault => rw [hchain] at hnone; cases hnone
      | ok info => rw [hchain] at hnone; cases hnone
  · next h => exact ⟨fun _ => Bool.eq_false_iff.2 h, fun _ => rfl⟩

/-- What is asked for is what the definitions say now, if it can be read what the templates inherit from. -/
theorem Remembers.resolves_of_readable (h : catalog.Remembers)
    (hread : ∀ data ∈ catalog.templates.values, Readable data) (name : String) : catalog.Resolves name := by
  have hinfo := h.info_eq name
  constructor
  case uncached =>
    rw [hinfo, (remembers_fresh catalog.templates).info_eq name]
    exact congrArg Prod.fst (resolve_congr ..)
  case unknown => rw [hinfo, resolve_eq_none_iff]
  case known =>
    intro hname
    obtain ⟨order, horder, hfault, hdata⟩ := walk_preorder hread [name] []
    refine ⟨order, horder, horder.fresh.1, fun hsized => ?_⟩
    obtain ⟨info, hchain, hresolved⟩ := TemplateInfo.ofChain_resolved hsized
    refine ⟨info, ?_, hresolved⟩
    rw [hinfo, resolve_of_contains hname hfault, hdata, hchain]
    rfl

theorem info_templates (name : String) : (catalog.info name).2.1.templates = catalog.templates := by
  unfold info
  split
  · rfl
  · split <;> rfl

/-- Templates with a loop, a base that is shared and one that is missing. -/
def tangled : Catalog :=
  (({} : Catalog).takeIn (fun _ => "") "templates.json" [(.str "templates", .map [
    (.str "Big", .map [(.str "inherits", .str "Left, Right"), (.str "width", .int 40)]),
    (.str "Left", .map [(.str "inherits", .list [.str "Base", .str "Gone"])]),
    (.str "Right", .map [(.str "inherits", .str "Base, Big"), (.str "type", .str "Button")]),
    (.str "Base", .map [(.str "height", .str "7")])])]).1

/-- The base that is shared comes after the first that leads to it, and the loop is not followed. -/
example : tangled.Preorder [] ["Big"] ["Big", "Left", "Base", "Right"] := by
  have left : tangled.Preorder ["Big"] ["Left", "Right"] ["Left", "Base", "Right"] := by
    refine .visited (by decide) rfl rfl (.visited (by decide) rfl rfl .done (.passed (.inr rfl) .done)) ?_
    exact .visited (by decide) rfl rfl (.passed (.inl (by decide)) (.passed (.inl (by decide)) .done)) .done
  exact .visited (by decide) rfl rfl left .done

end Catalog

namespace Session

open Act

variable {α β : Type} {s : Session}

/-! ## The catalog of a session -/

/-- The operation leaves a catalog that is built, when it finds one. -/
structure Builds (m : Act α) (s : Session) : Prop where
  built : s.host.catalog.Built → (after m s).host.catalog.Built

/-- An operation that leaves the host as it is. -/
theorem Builds.still {m : Act α} (h : (after m s).host = s.host) : Builds m s := ⟨fun hs => h ▸ hs⟩

theorem Builds.bind {m : Attempt α} {f : α → Attempt β} (hm : Builds m.run s)
    (hf : ∀ a, result m.run s = .ok a → Builds (f a).run (after m.run s)) : Builds (m >>= f).run s := by
  constructor
  intro hs
  change (after (ExceptT.bindCont f (result m.run s) : Act _) (after m.run s)).host.catalog.Built
  cases hr : result m.run s with
  | error fault => exact hm.built hs
  | ok a => exact (hf a hr).built (hm.built hs)

theorem Builds.of_host {f : Host → Attempt β} (h : Builds (f s.host).run s) :
    Builds (liftM currentHost >>= f).run s := ⟨h.built⟩

theorem setCatalog_builds {catalog : Catalog} (h : s.host.catalog.Built → catalog.Built) :
    Builds (liftM (onHost fun h => { h with catalog }) : Attempt Unit).run s := ⟨h⟩

theorem answer_builds (a : α) (s : Session) : Builds (pure a : Attempt α).run s := .still rfl

theorem attempt_builds (x : Except Fault α) (s : Session) : Builds (attempt x).run s := .still rfl

theorem sayNotes_host (source : String) (notes : List LoadNote) (s : Session) :
    (after (sayNotes source notes) s).host = s.host := by
  unfold sayNotes
  induction notes generalizing s with
  | nil => rfl
  | cons note notes ih => exact ih (after (say source note.tag "loading" note.text) s)

theorem sayNotes_builds (source : String) (notes : List LoadNote) (s : Session) :
    Builds (liftM (sayNotes source notes) : Attempt Unit).run s := .still (sayNotes_host source notes s)

theorem loadConfig_builds (filename : String) (defaults : Value) (strict : Bool) (s : Session) :
    Builds (loadConfig filename defaults strict).run s := by
  unfold loadConfig
  refine Builds.bind (.still rfl) fun s' hs' => ?_
  cases hs'
  refine Builds.bind (.still rfl) fun _ _ => ?_
  exact (sayNotes_builds _ _ _).bind fun _ _ => attempt_builds _ _

theorem templateInfo_builds (name : String) (s : Session) : Builds (templateInfo name).run s := by
  unfold templateInfo
  refine .of_host ((setCatalog_builds fun hs => hs.asked name).bind fun _ _ => ?_)
  exact (sayNotes_builds _ _ _).bind fun _ _ => attempt_builds _ _

theorem registerTemplate_builds (name data : Value) (s : Session) :
    Builds (liftM (registerTemplate name data) : Attempt Bool).run s := by
  constructor
  intro hs
  change (after (registerTemplate name data) s).host.catalog.Built
  unfold registerTemplate
  rw [after_currentHost_bind]
  rcases hr : s.host.catalog.register s.host.label name data with ⟨_ | catalog, notes⟩
  · have hafter := sayNotes_host "TemplateCatalog" notes s
    exact (congrArg Host.catalog hafter).symm ▸ hs
  · exact hs.registered (congrArg Prod.fst hr)

theorem loadTemplates_builds (filename : String) (s : Session) : Builds (loadTemplates filename).run s := by
  unfold loadTemplates
  refine (loadConfig_builds _ _ _ _).bind fun config _ => ?_
  refine .of_host ((setCatalog_builds fun hs => hs.loaded _ filename _).bind fun _ _ => ?_)
  exact (sayNotes_builds _ _ _).bind fun _ _ => answer_builds _ _

theorem performTemplate_builds (c : TemplateCommand) (s : Session) : Builds (performTemplate c).run s := by
  cases c with
  | register name data => exact (registerTemplate_builds name data s).bind fun _ _ => answer_builds _ _
  | load filename =>
    cases filename with
    | str filename => exact (loadTemplates_builds filename s).bind fun _ _ => answer_builds _ _
    | _ => exact attempt_builds _ _
  | info name =>
    refine (templateInfo_builds name s).bind fun info _ => ?_
    cases info with
    | none | some info => exact answer_builds _ _
  | contains | names => exact Builds.bind (.still rfl) fun _ _ => answer_builds _ _

/-- What is done with templates, in whatever session. -/
structure TemplatesWork (s : Session) : Prop where
  builds : ∀ c, s.host.catalog.Built → (after (performTemplate c).run s).host.catalog.Built
  /-- What a template is said to be is what the catalog says. -/
  info : ∀ name, result (performTemplate (.info name)).run s =
    (s.host.catalog.info name).1.map fun info => (info.map Reply.template).getD nothing

theorem templatesWork (s : Session) : s.TemplatesWork where
  builds := fun c => (performTemplate_builds c s).built
  info := fun name => by
    have found : result (templateInfo name).run s = (s.host.catalog.info name).1 := rfl
    have asked : result (performTemplate (.info name)).run s =
      result (ExceptT.bindCont (fun _ => _) (result (templateInfo name).run s) : Act _)
        (after (templateInfo name).run s) := rfl
    rw [asked, found]
    rcases (s.host.catalog.info name).1 with fault | _ | info <;> rfl

end Session

namespace Catalog

/-- **What is asked for is what the definitions say now**, whatever has been registered and asked for before, if
it can be read what the templates inherit from; and the commands of a session build its catalog. -/
theorem Built.resolves {catalog : Catalog} (h : catalog.Built)
    (hread : ∀ data ∈ catalog.templates.values, Readable data) (name : String) :
    catalog.Resolves name ∧ ∀ s : Session, s.TemplatesWork :=
  ⟨h.remembers.resolves_of_readable hread name, Session.templatesWork⟩

/-- Templates with a loop are asked for twice. -/
theorem resolves_tangled : (tangled.info "Big").2.1.Built ∧
    (∀ data ∈ (tangled.info "Big").2.1.templates.values, Readable data) ∧
    (tangled.info "Big").2.1.Resolves "Big" ∧ ∀ s : Session, s.TemplatesWork := by
  have built : (tangled.info "Big").2.1.Built := (Built.empty.loaded _ _ _).asked _
  have readable : ∀ data ∈ (tangled.info "Big").2.1.templates.values, Readable data := by
    rw [info_templates]
    decide +kernel
  exact ⟨built, readable, built.resolves readable "Big"⟩

end Catalog

end FrameHost
