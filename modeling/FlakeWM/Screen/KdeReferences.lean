import FlakeWM.Screen.KdeOutputs

/-! Outputs that the KDE output manager refers to.

Configurations outlive the outputs they mention, and the primary output is chosen in
several places. None of them is left with an output that is gone. -/

set_option autoImplicit false

namespace FlakeWM.Screen

variable {F : Type}

structure Configuration.Refers (outputs : List Nat) (configuration : Configuration F) : Prop where
  heads : ∀ head ∈ configuration.heads, head.output ∈ outputs
  primary : ∀ output ∈ configuration.primary, output ∈ outputs
  one : (configuration.heads.map ConfigurationHead.output).Nodup

namespace KdeOutputs

structure Referenced (kde : KdeOutputs F) : Prop where
  primary : ∀ output ∈ kde.primary, output ∈ kde.outputs
  configurations : ∀ configuration ∈ kde.configurations, configuration.Refers kde.outputs

def PrimaryOn (kde : KdeOutputs F) : Prop :=
  (∃ output ∈ kde.outputs, kde.isOn output = true) → ∃ output ∈ kde.primary, kde.isOn output = true

variable {kde : KdeOutputs F}

theorem firstOn_mem {o : Nat} (first : o ∈ kde.firstOn) : o ∈ kde.outputs :=
  List.mem_of_find?_eq_some first

theorem primaryOn_updateOutputs (kde : KdeOutputs F) : kde.updateOutputs.PrimaryOn := by
  rintro ⟨o, present, on⟩
  unfold updateOutputs choosePrimary
  split
  · rename_i lit
    obtain ⟨primary, held, lit⟩ := (Option.any_eq_true _ _).mp lit
    exact ⟨primary, held, lit⟩
  · cases first : kde.firstOn with
    | none => exact absurd on (List.find?_eq_none.mp first o present)
    | some id' => exact ⟨id', rfl, List.find?_some first⟩

theorem Referenced.updateOutputs (referenced : kde.Referenced) : kde.updateOutputs.Referenced := by
  refine ⟨?_, referenced.configurations⟩
  unfold KdeOutputs.updateOutputs choosePrimary
  split
  · exact referenced.primary
  · exact fun _ first => firstOn_mem first

theorem Referenced.modifyConfiguration (referenced : kde.Referenced) (id : Nat) {f : Configuration F → Configuration F}
    (kept : ∀ cfg : Configuration F, cfg.Refers kde.outputs →
      (f cfg).Refers kde.outputs) : (kde.modifyConfiguration id f).Referenced := by
  refine ⟨referenced.primary, fun cfg mem => ?_⟩
  obtain ⟨old, held, rfl | rfl⟩ := FirstMatch.mem_update mem
  · exact referenced.configurations _ held
  · exact kept old (referenced.configurations old held)

def references (kde : KdeOutputs F) : List Nat × Option Nat × List (Configuration F) :=
  (kde.outputs, kde.primary, kde.configurations)

theorem Referenced.congr {next : KdeOutputs F} (referenced : kde.Referenced) (same : next.references = kde.references) :
    next.Referenced := by
  obtain ⟨os, rest⟩ := Prod.mk.inj same
  obtain ⟨primary, configurations⟩ := Prod.mk.inj rest
  constructor
  · rw [os, primary]
    exact referenced.primary
  · rw [os, configurations]
    exact referenced.configurations

section

variable [ScaleFormat F]

theorem Referenced.configure (referenced : kde.Referenced) (id o : Nat)
    {f : ConfigurationHead F → ConfigurationHead F} (same : ∀ head, (f head).output = head.output) :
    (kde.configure id o f).Referenced := by
  unfold KdeOutputs.configure device
  by_cases present : kde.outputs.contains o = true
  · rw [if_pos present]
    cases kde.devices[o]? with
    | none => exact referenced
    | some device =>
      apply referenced.modifyConfiguration
      intro cfg refers
      have captured : (kde.getHead cfg o device).Refers kde.outputs := by
        unfold getHead
        split
        · exact refers
        · rename_i unnamed
          refine ⟨fun head mem => ?_, refers.primary, ?_⟩
          · rcases List.mem_append.mp mem with mem | mem
            · exact refers.heads head mem
            · rw [List.mem_singleton.mp mem]
              exact List.contains_iff_mem.mp present
          · rw [List.map_append, List.nodup_append]
            refine ⟨refers.one, by simp, fun first named second added => ?_⟩
            obtain ⟨head, mem, rfl⟩ := List.mem_map.mp named
            rw [List.mem_singleton.mp added]
            rintro rfl
            exact unnamed (List.any_eq_true.mpr ⟨head, mem, by simp⟩)
      refine ⟨fun head mem => ?_, captured.primary, ?_⟩
      · obtain ⟨old, held, rfl | rfl⟩ := FirstMatch.mem_update mem
        · exact captured.heads _ held
        · rw [same]
          exact captured.heads old held
      · dsimp only
        rw [FirstMatch.map_update same]
        exact captured.one
  · rw [if_neg present]
    exact referenced

theorem references_commit (kde : KdeOutputs F) (o : Nat) (f : Device F → Device F) :
    (kde.commit o f).references = kde.references := by
  unfold commit
  split <;> rfl

theorem references_commitHeads (kde : KdeOutputs F) (heads : List (ConfigurationHead F)) :
    (kde.commitHeads heads).references = kde.references := by
  induction heads generalizing kde with
  | nil => rfl
  | cons head rest ih => exact (ih _).trans (references_commit kde head.output _)

theorem references_writeHeads (kde : KdeOutputs F) (heads : List (ConfigurationHead F)) :
    (kde.writeHeads heads).references = kde.references := by
  have placed : ∀ kde : KdeOutputs F, (kde.placeHeads heads).references = kde.references := by
    induction heads with
    | nil => exact fun _ => rfl
    | cons head rest ih => exact fun kde => ih (kde.place head.output head.x head.y false)
  exact (placed _).trans (references_commitHeads kde heads)

theorem Referenced.configureApply (referenced : kde.Referenced) (id : Nat) (refused : Option Nat) :
    (kde.configureApply id refused).Referenced := by
  unfold KdeOutputs.configureApply
  cases found : kde.configuration id with
  | none => exact referenced
  | some cfg =>
    dsimp only
    split
    · exact referenced
    · apply Referenced.modifyConfiguration
      · unfold applyConfiguration
        split
        · have written := references_writeHeads kde cfg.heads
          have os : (kde.writeHeads cfg.heads).outputs = kde.outputs := congrArg Prod.fst written
          have refers := referenced.configurations cfg (List.mem_of_find?_eq_some found)
          apply Referenced.updateOutputs
          refine ⟨?_, (referenced.congr written).configurations⟩
          unfold setPrimary
          dsimp only
          rw [os]
          exact refers.primary
        · exact referenced.congr (references_commitHeads kde _)
      · exact fun cfg refers => ⟨refers.heads, refers.primary, refers.one⟩

theorem Referenced.removeOutput (referenced : kde.Referenced) (o : Nat) : (kde.removeOutput o).Referenced := by
  unfold KdeOutputs.removeOutput
  split
  · have rest : ∀ id' ∈ kde.outputs, id' ≠ o → id' ∈ kde.outputs.erase o :=
      fun id' mem apart => (List.mem_erase_of_ne apart).mpr mem
    have configurations : ∀ cfg ∈ kde.configurations.map (dropOutput o), cfg.Refers (kde.outputs.erase o) := by
      intro cfg mem
      obtain ⟨old, held, rfl⟩ := List.mem_map.mp mem
      have refers := referenced.configurations old held
      refine ⟨fun head mem => ?_, fun id' chosen => ?_, ?_⟩
      · obtain ⟨mem, apart⟩ := List.mem_filter.mp mem
        exact rest _ (refers.heads head mem) (by simpa using apart)
      · unfold dropOutput at chosen
        split at chosen
        · contradiction
        · rename_i other_primary
          exact rest id' (refers.primary id' chosen) fun same => other_primary (same ▸ chosen)
      · exact refers.one.sublist (List.filter_sublist.map _)
    split
    · exact ⟨fun _ first => firstOn_mem first, configurations⟩
    · rename_i other_primary
      exact ⟨fun id' held => rest id' (referenced.primary id' held) fun same => other_primary (same ▸ held),
        configurations⟩
  · exact referenced

theorem Referenced.step (referenced : kde.Referenced) (e : KdeEvent F) : (kde.step e).Referenced := by
  cases e with
  | addOutput =>
    have more : ∀ o ∈ kde.outputs, o ∈ kde.outputs ++ [kde.devices.length] :=
      fun o mem => List.mem_append_left _ mem
    constructor
    · unfold KdeOutputs.step addOutput
      dsimp only
      split
      · intro o added
        obtain rfl := Option.some.inj added
        exact List.mem_append_right _ (List.mem_singleton.mpr rfl)
      · exact fun o held => more o (referenced.primary o held)
    · intro cfg mem
      have refers := referenced.configurations cfg mem
      exact ⟨fun head mem => more _ (refers.heads head mem), fun o held => more o (refers.primary o held), refers.one⟩
  | removeOutput o => exact referenced.removeOutput o
  | commit o => exact referenced.congr (references_commit kde o _)
  | place | unplace => exact referenced.congr rfl
  | updateOutputs => exact referenced.updateOutputs
  | setDpms =>
    unfold KdeOutputs.step setDpms
    dsimp only
    split
    · apply Referenced.updateOutputs
      exact referenced.congr rfl
    · exact referenced
  | createConfiguration =>
    unfold KdeOutputs.step createConfiguration
    dsimp only
    split
    · exact referenced
    · refine ⟨referenced.primary, fun cfg mem => ?_⟩
      rcases List.mem_append.mp mem with mem | mem
      · exact referenced.configurations cfg mem
      · rw [List.mem_singleton.mp mem]
        exact ⟨by simp, referenced.primary, List.nodup_nil⟩
  | destroyConfiguration =>
    exact ⟨referenced.primary, fun cfg mem =>
      referenced.configurations cfg (List.mem_of_mem_eraseP mem)⟩
  | configureEnable | configurePosition | configureVrr => exact referenced.configure _ _ fun _ => rfl
  | configureMode =>
    apply referenced.configure
    intro head
    unfold ConfigurationHead.setMode
    split
    · split <;> rfl
    · rfl
  | configureTransform =>
    apply referenced.configure
    intro head
    unfold ConfigurationHead.setTransform
    split <;> rfl
  | configureScale =>
    apply referenced.configure
    intro head
    unfold ConfigurationHead.setScale
    split <;> rfl
  | configurePrimary id o =>
    unfold KdeOutputs.step configurePrimary
    dsimp only
    split
    · rename_i present
      apply referenced.modifyConfiguration
      intro cfg refers
      refine ⟨refers.heads, ?_, refers.one⟩
      intro id' chosen
      obtain rfl := Option.some.inj chosen
      exact List.contains_iff_mem.mp present
    · exact referenced
  | configureApply id refused => exact referenced.configureApply id refused

/-- In every state of every run the primary output and all outputs of the configurations
are present, no configuration has two heads for one output, and an update leaves a
primary output that is on if there is one. -/
theorem throughout_referenced (events : List (KdeEvent F)) :
    Transition.Throughout step (fun kde => kde.Referenced ∧ kde.updateOutputs.PrimaryOn)
      (create : KdeOutputs F) events := by
  have start : (create : KdeOutputs F).Referenced := ⟨by simp [create], by simp [create]⟩
  have kept := Transition.throughout_invariant (fun (kde : KdeOutputs F) event (referenced : kde.Referenced) =>
    referenced.step event) start events
  exact kept.mono fun kde referenced => ⟨referenced, primaryOn_updateOutputs kde⟩

end

end KdeOutputs

end FlakeWM.Screen
