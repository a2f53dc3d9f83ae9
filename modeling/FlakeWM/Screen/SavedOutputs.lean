import FlakeWM.Screen.Modes

/-! What an output is given back when it is connected again.

Its configuration is saved under its name. When an output of that name comes, the
saved size, scale, transform and place are set again, and with the size the fastest
of the modes whose refresh rate is within half a hertz of the saved one. -/

set_option autoImplicit false

namespace FlakeWM.Screen

theorem Config.value_insert (config : Config) (name : String) (saved : Saved) :
    (config.insert name saved).value name = some saved := by
  induction config with
  | nil => simp [Config.insert, Config.value]
  | cons en rest ih =>
    obtain ⟨key, old⟩ := en
    by_cases here : name = key
    · simp [Config.insert, Config.value, here]
    · by_cases before : name < key
      · simp [Config.insert, Config.value, here, before]
      · have later : Config.value ((key, old) :: Config.insert rest name saved) name =
            Config.value (Config.insert rest name saved) name := by
          simp [Config.value, Ne.symm here]
        rw [Config.insert, if_neg here, if_neg before, later, ih]

variable {F : Type} [ScaleFormat F]

/-- The output shows one of its modes, and the mode has a size. -/
structure Output.Shows (output : Output F) : Prop where
  enabled : output.enabled = true
  offered : ⟨output.width, output.height, output.refresh⟩ ∈ output.modes
  width : 0 < output.width
  height : 0 < output.height

/-- No mode of the same size and of a refresh rate near the current one is faster. -/
def Output.Fastest (output : Output F) : Prop :=
  ∀ mode ∈ output.modes, mode.width = output.width → mode.height = output.height →
    (output.refresh ≤ 0 ∨ |mode.refresh - output.refresh| ≤ 500) → mode.refresh ≤ output.refresh

def Output.saved (output : Output F) (box : Pixels.Box) (primary : Bool) : Saved where
  enabled := some true
  width := some output.width
  height := some output.height
  refresh := some output.refresh
  scale := some (ScaleFormat.toDouble output.scale)
  transform := some output.transform.code
  lx := some box.x
  ly := some box.y
  primary := some primary

def Output.restoring (output : Output F) : Request where
  enabled := some true
  scale := some (ScaleFormat.toDouble output.scale)
  transform := some output.transform
  width := output.width
  height := output.height
  refresh := output.refresh

section

variable {o : Output F}

theorem Output.restoring_accepts (mode : Mode) :
    o.restoring.accepts mode = true ↔ mode.width = o.width ∧ mode.height = o.height ∧
      (o.refresh ≤ 0 ∨ |mode.refresh - o.refresh| ≤ 500) := by
  simp only [Request.accepts, Bool.and_eq_true, Bool.or_eq_true, decide_eq_true_eq]
  simp [Output.restoring, and_assoc]

/-- The mode that is chosen has the saved size; it has the saved refresh rate exactly
if no near one is faster. -/
theorem Output.Shows.restoring_mode (shows : o.Shows) :
    ∃ best, o.restoring.chooseMode o.modes = some (some best) ∧ best.width = o.width ∧
      best.height = o.height ∧ (best.refresh = o.refresh ↔ o.Fastest) := by
  have own : o.restoring.accepts ⟨o.width, o.height, o.refresh⟩ = true := by
    rw [Output.restoring_accepts]
    simp
  obtain ⟨best, found⟩ := Request.bestMode_of_mem shows.offered own
  obtain ⟨listed, accepted, fastest⟩ := Request.bestMode_spec found
  obtain ⟨width, height, near⟩ := (Output.restoring_accepts best).mp accepted
  have sized : 0 < o.restoring.width ∧ 0 < o.restoring.height := by
    have width := shows.width
    have height := shows.height
    simp only [Output.restoring]
    omega
  refine ⟨best, by rw [Request.chooseMode, if_pos sized, found]; rfl, width, height, ?_⟩
  have above : o.refresh ≤ best.refresh := fastest _ shows.offered own
  constructor
  · intro same mode mem sameWidth sameHeight nearby
    have slower := fastest mode mem ((Output.restoring_accepts mode).mpr ⟨sameWidth, sameHeight, nearby⟩)
    omega
  · intro none
    have below := none best listed width height near
    omega

end

namespace Screens

/-- The output is configured and placed as the given one was. -/
structure Restored (screens : Screens F) (id : Nat) (output : Output F) (box : Pixels.Box) : Prop where
  output : ∃ now, screens.outputs[id]? = some now ∧ now.width = output.width ∧ now.height = output.height ∧
    now.refresh = output.refresh ∧ now.scale = output.scale ∧ now.transform = output.transform
  place : (screens.box id).x = box.x ∧ (screens.box id).y = box.y

variable {screens again : Screens F} {id new : Nat} {output fresh : Output F} {box : Pixels.Box} {primary : Bool}

theorem persistOutput_value (found : screens.outputs[id]? = some output) (enabled : output.enabled = true) :
    ∃ primary, (screens.persistOutput id).config.value output.name = some (output.saved (screens.box id) primary) := by
  refine ⟨screens.config.primaryOutputName == output.name, ?_⟩
  unfold persistOutput
  simp only [found]
  rw [Config.value_insert]
  simp [Output.saved, enabled]

theorem addOutput_of_saved (found : again.outputs[new]? = some fresh)
    (saved : again.config.value fresh.name = some (output.saved box primary)) :
    ∃ known : Screens F, known.outputs = again.outputs ∧ known.layout = again.layout ∧ again.addOutput new true =
        let configured := (known.configureOutput new output.restoring true).getD known
        ((configured.moveOutput new box.x box.y).getD configured).persistOutput new := by
  let known : Screens F :=
    if again.config.primaryOutputName = "" then
      { again with config := again.config.setPrimaryOutputName fresh.name }
    else again
  refine ⟨known, ?_, ?_, ?_⟩
  · simp only [known]
    split <;> rfl
  · simp only [known]
    split <;> rfl
  · unfold addOutput
    simp only [found, saved]
    simp [Output.saved, Saved.empty, Output.restoring, Transform.ofCode_code, known]

/-- Adding an output again with the configuration that was saved of it restores its
size, scale, transform and place, and its refresh rate exactly if it was the fastest
of the near ones. -/
theorem addOutput_restores_iff (screens again : Screens F) (id new : Nat) (output fresh : Output F)
    (found : screens.outputs[id]? = some output) (shows : output.Shows)
    (added : again.outputs[new]? = some fresh) (name : fresh.name = output.name) (modes : fresh.modes = output.modes)
    (kept : again.config.value output.name = (screens.persistOutput id).config.value output.name) :
    (again.addOutput new true).Restored new output (screens.box id) ↔ output.Fastest := by
  obtain ⟨primary, persisted⟩ := persistOutput_value found shows.enabled
  have saved : again.config.value fresh.name = some (output.saved (screens.box id) primary) := by
    rw [name, kept, persisted]
  obtain ⟨known, outputs, -, restored⟩ := addOutput_of_saved added saved
  obtain ⟨best, chosen, width, height, refresh⟩ := shows.restoring_mode
  have listed : known.outputs[new]? = some fresh := by rw [outputs, added]
  cases done : known.configureOutput new output.restoring true with
  | none => simp [configureOutput_eq_none listed, modes, chosen] at done
  | some =>
    obtain ⟨moved, there⟩ := moveOutput_configured done rfl (screens.box id).x (screens.box id).y
    obtain ⟨old, mode, here, picked, committed⟩ := configureOutput_outputs done
    obtain rfl : fresh = old := Option.some.inj (listed.symm.trans here)
    obtain rfl : mode = some best := by
      rw [modes, chosen] at picked
      exact (Option.some.inj picked).symm
    obtain ⟨same, placed⟩ := moveOutput_eq_some there
    simp only [done, there, Option.getD_some] at restored
    have now : (again.addOutput new true).outputs[new]? = some (fresh.commit output.restoring (some best)) := by
      rw [restored, persistOutput_outputs, same, committed, List.getElem?_modify, listed]
      simp
    have place : ((again.addOutput new true).box new).x = (screens.box id).x ∧
        ((again.addOutput new true).box new).y = (screens.box id).y := by
      have entry : entryOf (again.addOutput new true).layout new =
          some ⟨new, (screens.box id).x, (screens.box id).y, false⟩ := by
        rw [restored, persistOutput_layout, placed]
        exact layoutAdd_self _ _ _ _ _
      rw [Screens.box, layoutBox, entry, now]
      exact ⟨rfl, rfl⟩
    rw [← refresh]
    constructor
    · rintro ⟨⟨shown, found, -, -, same, -⟩, -⟩
      obtain rfl : _ = shown := Option.some.inj (now.symm.trans found)
      exact same
    · intro same
      exact ⟨⟨_, now, width, height, same, ScaleFormat.ofDouble_toDouble _, rfl⟩, place⟩

/-- An output in its only mode is restored after it was connected anew, where it
starts in another place and at another scale. -/
theorem addOutput_restores_single :
    let output : Output Nat := ⟨"DP-1", [⟨1920, 1080, 60000⟩], true, 1920, 1080, 60000, 2, .rotated90⟩
    let screens : Screens Nat := ⟨[output], [⟨0, 300, 40, false⟩], []⟩
    let again : Screens Nat := ⟨[{ output with scale := 1, transform := .normal }], [⟨0, 0, 0, true⟩],
      (screens.persistOutput 0).config⟩
    (again.addOutput 0 true).Restored 0 output ⟨300, 40, 540, 960⟩ := by
  intro output screens again
  have shows : output.Shows := ⟨rfl, by decide, by decide, by decide⟩
  have fastest : output.Fastest := by
    intro mode member _ _ _
    obtain rfl : mode = ⟨1920, 1080, 60000⟩ := by simpa [output] using member
    exact Int.le_refl _
  have box : screens.box 0 = ⟨300, 40, 540, 960⟩ := by decide +kernel
  rw [← box]
  exact (addOutput_restores_iff screens again 0 0 output _ rfl shows rfl rfl rfl rfl).mpr fastest

/-- An output that offers 60 Hz and 59.94 Hz. -/
def television : Output Nat :=
  ⟨"HDMI-A-1", [⟨1920, 1080, 60000⟩, ⟨1920, 1080, 59940⟩], true, 1920, 1080, 59940, 1, .normal⟩

/-- Saved at 59.94 Hz, it comes back at 60 Hz. -/
theorem television_not_restored :
    let screens : Screens Nat := ⟨[television], [⟨0, 0, 0, false⟩], []⟩
    let again : Screens Nat := ⟨[{ television with refresh := 60000 }], [⟨0, 0, 0, true⟩], (screens.persistOutput 0).config⟩
    television.Shows ∧ (again.addOutput 0 true).outputs[0]?.map (·.refresh) = some 60000 ∧
      ¬ (again.addOutput 0 true).Restored 0 television (screens.box 0) := by
  intro screens again
  have refresh : (again.addOutput 0 true).outputs[0]?.map (·.refresh) = some 60000 := by decide
  refine ⟨⟨rfl, by decide, by decide, by decide⟩, refresh, ?_⟩
  rintro ⟨⟨now, found, -, -, same, -⟩, -⟩
  rw [found, Option.map_some, same] at refresh
  cases refresh

end Screens

end FlakeWM.Screen
