import InformerGen.Template.Render

/-! Rendering a template whose placeholders stand for values that suit them. Such a rendering cannot
fail, and since it writes no type by its qualified name it leaves the imports alone: the text is a
function of the bindings and the naming systems. -/
namespace InformerGen.Template

/-- The value can be written at a placeholder with the naming system, without an import. -/
def Suits (systems : NameSystems) (system : Option String) : TemplateValue → Prop
  | .literal _ => system = none
  | .bool _ => system = none
  | .symbol _ => system = none ∨ system = some NameSystems.rawId
  | .type _ => ∃ name, system = some name ∧ name ≠ NameSystems.rawId ∧ (systems.get? name).isSome

def valueText (systems : NameSystems) (system : Option String) : TemplateValue → String
  | .literal text => text
  | .bool value => if value then "true" else "false"
  | .symbol symbol => symbol.text
  | .type type => (system.bind fun name => systems.name? name type).getD ""

def Fits (context : TemplateContext) (systems : NameSystems) (placeholder : Placeholder) : Prop :=
  ∃ value, context.get? placeholder.name = some value ∧ Suits systems placeholder.system value

def segmentText (context : TemplateContext) (systems : NameSystems) : Segment → String
  | .text text => text
  | .placeholder placeholder =>
    ((context.get? placeholder.name).map (valueText systems placeholder.system)).getD ""

def written (template : Template) (context : TemplateContext) (systems : NameSystems) : String :=
  template.segments.foldr (fun segment rest => segmentText context systems segment ++ rest) ""

variable {context : TemplateContext} {systems : NameSystems} {resolver : Resolver}

theorem renderValue_of_suits {placeholder : Placeholder} {value : TemplateValue}
    (suits : Suits systems placeholder.system value) (trail : Trail) :
    renderValue systems resolver placeholder value trail =
      (.ok (valueText systems placeholder.system value),trail) := by
  cases value with
  | literal text =>
    change placeholder.system = none at suits
    rw [renderValue,rejectSystem,suits]
    rfl
  | bool value =>
    change placeholder.system = none at suits
    rw [renderValue,rejectSystem,suits]
    rfl
  | symbol symbol =>
    rw [renderValue]
    rcases suits with plain | raw
    · rw [plain]
      rfl
    · rw [raw]
      rfl
  | type type =>
    obtain ⟨name,chosen,named,known⟩ := suits
    obtain ⟨namer,found⟩ := Option.isSome_iff_exists.mp known
    have written : systems.name? name type = some (namer.nameOf type) := by
      rw [NameSystems.name?,found,Option.map_some]
    rw [renderValue,valueText,chosen]
    simp only [if_neg named,Option.bind_some,written]
    rfl

theorem written_eq_join (template : Template) : template.written context systems =
    String.join (template.segments.map (segmentText context systems)) := by
  obtain ⟨segments⟩ := template
  induction segments with
  | nil => rfl
  | cons segment rest ih =>
    rw [List.map_cons,String.join_cons]
    exact congrArg _ ih

theorem renderSegment_of_fits {segment : Segment}
    (fits : ∀ placeholder, segment = .placeholder placeholder → Fits context systems placeholder)
    (trail : Trail) :
    renderSegment context systems resolver segment trail =
      (.ok (segmentText context systems segment),trail) := by
  cases segment with
  | text text => rfl
  | placeholder placeholder =>
    obtain ⟨value,bound,suits⟩ := fits placeholder rfl
    rw [renderSegment,segmentText,bound]
    exact renderValue_of_suits suits trail

theorem renderSegments_of_fits {segments : List Segment}
    (fits : ∀ placeholder, .placeholder placeholder ∈ segments → Fits context systems placeholder)
    (trail : Trail) :
    renderSegments context systems resolver segments trail =
      (.ok (written ⟨segments⟩ context systems),trail) := by
  induction segments with
  | nil => rfl
  | cons segment rest ih =>
    have first : ∀ placeholder, segment = .placeholder placeholder →
        Fits context systems placeholder := by
      intro placeholder same
      exact fits placeholder (by simp [same])
    have others := ih fun placeholder member => fits placeholder (List.mem_cons_of_mem _ member)
    rw [renderSegments,Recording.bind_apply,renderSegment_of_fits first trail]
    dsimp only
    rw [Recording.bind_apply,others]
    rfl

theorem mem_placeholders {template : Template} {placeholder : Placeholder} :
    placeholder ∈ template.placeholders ↔ .placeholder placeholder ∈ template.segments := by
  simp only [placeholders,List.mem_filterMap]
  constructor
  · rintro ⟨segment,member,same⟩
    cases segment with
    | text text => cases same
    | placeholder other =>
      cases same
      exact member
  · intro member
    exact ⟨_,member,rfl⟩

theorem render_of_fits {template : Template}
    (fits : ∀ placeholder ∈ template.placeholders, Fits context systems placeholder)
    (trail : Trail) :
    template.render context systems resolver trail =
      (.ok (template.written context systems),trail) := by
  have bound : template.placeholders.find? (fun placeholder =>
      !context.contains placeholder.name) = none := by
    rw [List.find?_eq_none]
    intro placeholder member
    obtain ⟨value,known,_⟩ := fits placeholder member
    simp [Bindings.contains,known]
  rw [render,bound]
  exact renderSegments_of_fits (fun placeholder member =>
    fits placeholder (mem_placeholders.mpr member)) trail

end InformerGen.Template
