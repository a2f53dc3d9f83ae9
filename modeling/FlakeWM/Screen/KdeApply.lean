import FlakeWM.Screen.KdeReferences

/-! What an applied configuration changes.

All that a configuration holds is written, also what its client has not set. That
changes nothing as long as those values are still the ones of the outputs, the
outputs that are not mentioned have been placed by hand, and the primary output is
the captured one and stays on. -/

set_option autoImplicit false

namespace FlakeWM.Screen

variable {F : Type}

def Configuration.asked (configuration : Configuration F) (output : Nat) (property : Property) : Bool :=
  configuration.heads.any fun head => head.output == output && head.asked.contains property

def Device.Same (before after : Device F) : Property → Prop
  | .enabled => after.enabled = before.enabled
  | .mode => after.mode = before.mode ∧ after.listed = before.listed
  | .transform => after.transform = before.transform
  | .scale => after.scale = before.scale
  | .adaptiveSync => after.adaptiveSync = before.adaptiveSync
  | .position => True

theorem Device.Same.refl (d : Device F) (property : Property) : d.Same d property := by
  cases property <;> simp [Device.Same]

namespace KdeOutputs

variable [ScaleFormat F]

structure OnlyAsked (before after : KdeOutputs F) (configuration : Configuration F) : Prop where
  primary : configuration.askedPrimary = false → after.primary = before.primary
  settings : ∀ output property, configuration.asked output property = false →
    ∀ device, before.devices[output]? = some device →
      ∃ now, after.devices[output]? = some now ∧ device.Same now property
  positions : ∀ output, configuration.asked output .position = false → after.position output = before.position output

/-- Applying a configuration changes only what its client asked for. -/
def AppliesOnlyAsked (kde : KdeOutputs F) : KdeEvent F → Prop
  | .configureApply id refused => ∀ configuration, kde.configuration id = some configuration →
      kde.OnlyAsked (kde.configureApply id refused) configuration
  | _ => True

def current [DecidableEq F] (kde : KdeOutputs F) (head : ConfigurationHead F) : Bool :=
  (head.asked.contains .position || kde.position head.output == (head.x, head.y)) &&
  kde.devices[head.output]?.all fun device =>
    (head.asked.contains .enabled || head.enabled == device.enabled) &&
    (head.asked.contains .mode || head.mode.all fun mode => mode == device.mode && device.listed) &&
    (head.asked.contains .transform || head.transform == device.transform) &&
    (head.asked.contains .scale || head.scale == device.scale) &&
    (head.asked.contains .adaptiveSync || !device.adaptiveSyncSupported || head.adaptiveSync == device.adaptiveSync)

def byHand (kde : KdeOutputs F) (heads : List (ConfigurationHead F)) : Bool :=
  kde.layout.all fun entry => !entry.autoConfigured || heads.any (·.output == entry.output)

/-- The output is there, and it is on if the last head for it says so or, without a head, if
it was on. -/
def leavesOn (kde : KdeOutputs F) (heads : List (ConfigurationHead F)) (output : Nat) : Bool :=
  kde.devices[output]?.isSome &&
    heads.foldl (fun on head => if head.output = output then head.enabled else on) (kde.isOn output)

/-- The captured primary output is the one at present. It is left on, or there is none and
no output is left on. -/
def keepsPrimary (kde : KdeOutputs F) (configuration : Configuration F) : Bool :=
  configuration.primary == kde.primary &&
    match kde.primary with
    | some output => kde.leavesOn configuration.heads output
    | none => kde.outputs.all fun output => !kde.leavesOn configuration.heads output

/-- What is written is what the outputs have, where it was not asked for. What is placed
automatically is placed by the configuration, if it is accepted, and else nothing is. -/
def upToDate [DecidableEq F] (kde : KdeOutputs F) : KdeEvent F → Bool
  | .configureApply id refused => (kde.configuration id).all fun configuration => configuration.applied ||
    match if configuration.heads.isEmpty then none else refused with
    | none => configuration.heads.all kde.current && kde.byHand configuration.heads &&
        (configuration.askedPrimary || kde.keepsPrimary configuration)
    | some committed => committed == 0 || (configuration.heads.take committed).all kde.current && kde.byHand []
  | _ => true

section

variable {kde : KdeOutputs F} {head : ConfigurationHead F} {o : Nat} {property : Property}

@[simp] theorem devices_commit (o : Nat) (f : Device F → Device F) :
    (kde.commit o f).devices = kde.devices.modify o f := by
  unfold commit
  split <;> rfl

variable (heads : List (ConfigurationHead F))

@[simp] theorem devices_placeHeads : (kde.placeHeads heads).devices = kde.devices := by
  induction heads generalizing kde with
  | nil => rfl
  | cons head rest ih => exact ih

theorem commit_same [DecidableEq F] {d now : Device F} (found : kde.devices[head.output]? = some d)
    (fresh : kde.current head = true) (unasked : head.asked.contains property = false)
    (same : d.Same now property) (support : now.adaptiveSyncSupported = d.adaptiveSyncSupported) :
    d.Same (now.commit head) property := by
  simp only [current, found, Option.all_some, Bool.and_eq_true] at fresh
  obtain ⟨_, ⟨⟨⟨enabled, mode⟩, transform⟩, sc⟩, sync⟩ := fresh
  cases property with
  | enabled => simpa only [unasked, Bool.false_or, beq_iff_eq, Device.Same, Device.commit] using enabled
  | mode =>
    rw [unasked, Bool.false_or] at mode
    cases captured : head.mode with
    | none => simpa [Device.Same, Device.commit, captured] using same
    | some =>
      simp only [captured, Option.all_some, Bool.and_eq_true, beq_iff_eq] at mode
      simp [Device.Same, Device.commit, captured, mode]
  | transform => simpa only [unasked, Bool.false_or, beq_iff_eq, Device.Same, Device.commit] using transform
  | scale => simpa only [unasked, Bool.false_or, beq_iff_eq, Device.Same, Device.commit] using sc
  | adaptiveSync =>
    cases supported : d.adaptiveSyncSupported with
    | false => simpa [Device.Same, Device.commit, support, supported] using same
    | true =>
      rw [unasked, supported, Bool.false_or, Bool.not_true, Bool.false_or, beq_iff_eq] at sync
      simpa [Device.Same, Device.commit, support, supported] using sync
  | position => trivial

theorem commitHeads_same [DecidableEq F] {before : KdeOutputs F} {heads : List (ConfigurationHead F)}
    (fresh : ∀ head ∈ heads, before.current head = true)
    (unasked : ∀ head ∈ heads, head.output = o → head.asked.contains property = false)
    {d now : Device F} (found : before.devices[o]? = some d) (shown : kde.devices[o]? = some now)
    (same : d.Same now property) (support : now.adaptiveSyncSupported = d.adaptiveSyncSupported) :
    ∃ last, (kde.commitHeads heads).devices[o]? = some last ∧ d.Same last property := by
  induction heads generalizing kde now with
  | nil => exact ⟨now, shown, same⟩
  | cons head rest ih =>
    have next : (kde.commit head.output (·.commit head)).devices[o]? =
        some (if head.output = o then now.commit head else now) := by
      rw [devices_commit, List.getElem?_modify, shown]
      rfl
    apply ih (fun other mem => fresh other (.tail _ mem)) (fun other mem => unasked other (.tail _ mem)) next
    · split
      case isTrue here =>
        exact commit_same (here ▸ found) (fresh head (.head _)) (unasked head (.head _) here) same support
      case isFalse => exact same
    · split
      case isTrue => exact support
      case isFalse => exact support

def Holds (layout : List LayoutOutput) (output : Nat) (place : Int × Int) : Prop :=
  entryOf layout output = some ⟨output, place.1, place.2, false⟩ ∨ entryOf layout output = none ∧ place = (0, 0)

variable {layout : List LayoutOutput} {place : Int × Int}

theorem Holds.reconfigure (holds : Holds layout o place) (os : List (Output F)) :
    Holds (reconfigure os layout) o place := by
  rcases holds with placed | ⟨absent, none⟩
  · exact .inl (reconfigure_keeps placed rfl)
  · exact .inr ⟨reconfigure_absent os absent, none⟩

theorem Holds.add (holds : Holds layout o place) (os : List (Output F)) {added : Nat}
    (apart : o ≠ added) (x y : Int) : Holds (layoutAdd os layout added x y false) o place := by
  rcases holds with placed | ⟨absent, none⟩
  · exact .inl (layoutAdd_other os apart placed rfl x y false)
  · exact .inr ⟨layoutAdd_absent os apart absent x y false, none⟩

theorem Holds.commit (holds : Holds kde.layout o place) (changed : Nat) (f : Device F → Device F) :
    Holds (kde.commit changed f).layout o place := by
  unfold KdeOutputs.commit
  split
  · exact holds.reconfigure _
  · exact holds

theorem Holds.commitHeads (holds : Holds kde.layout o place) (heads : List (ConfigurationHead F)) :
    Holds (kde.commitHeads heads).layout o place := by
  induction heads generalizing kde with
  | nil => exact holds
  | cons head rest ih => exact ih (holds.commit head.output _)

variable {heads : List (ConfigurationHead F)}

theorem holds_placeHeads (aims : ∀ head ∈ heads, head.output = o → (head.x, head.y) = place)
    (start : Holds kde.layout o place ∨ ∃ head ∈ heads, head.output = o) :
    Holds (kde.placeHeads heads).layout o place := by
  induction heads generalizing kde with
  | nil =>
    rcases start with holds | ⟨head, mem, _⟩
    · exact holds
    · cases mem
  | cons head rest ih =>
    apply ih fun other mem => aims other (.tail _ mem)
    by_cases here : head.output = o
    · have aim := aims head (.head _) here
      subst here
      rw [← aim]
      exact .inl (.inl (layoutAdd_self ..))
    · rcases start with holds | ⟨other, mem, same⟩
      · exact .inl (holds.add _ (Ne.symm here) head.x head.y)
      · rcases List.mem_cons.mp mem with rfl | later
        · exact absurd same here
        · exact .inr ⟨other, later, same⟩

theorem position_of_holds (holds : Holds kde.layout o place) {d : Device F}
    (found : kde.devices[o]? = some d) : kde.position o = place := by
  rcases holds with placed | ⟨absent, none⟩
  · simp [position, layoutBox, placed, shown, found]
  · simp [position, layoutBox, absent, none]

theorem position_of_missing (missing : kde.devices[o]? = none) : kde.position o = (0, 0) := by
  cases en : entryOf kde.layout o <;> simp [position, layoutBox, en, shown, missing]

theorem holds_of_byHand (manual : kde.byHand heads = true) (unnamed : ∀ head ∈ heads, head.output ≠ o)
    {d : Device F} (found : kde.devices[o]? = some d) :
    Holds kde.layout o (kde.position o) := by
  cases en : entryOf kde.layout o with
  | none => exact .inr ⟨en, by simp [position, layoutBox, en]⟩
  | some placed =>
    have free := List.all_eq_true.mp manual placed (List.mem_of_find?_eq_some en)
    obtain rfl := entryOf_output en
    have unheaded : heads.any (·.output == placed.output) = false := by
      simpa using unnamed
    rw [unheaded, Bool.or_false, Bool.not_eq_true'] at free
    refine .inl ?_
    rw [en]
    simp [position, layoutBox, en, shown, found, ← free]

theorem commitHeads_missing (missing : kde.devices[o]? = none) (heads : List (ConfigurationHead F)) :
    (kde.commitHeads heads).devices[o]? = none := by
  induction heads generalizing kde with
  | nil => exact missing
  | cons head rest ih =>
    apply ih
    rw [devices_commit, List.getElem?_modify, missing]
    rfl

theorem devices_writeHeads : (kde.writeHeads heads).devices = (kde.commitHeads heads).devices :=
  devices_placeHeads heads

theorem writeHeads_settings [DecidableEq F] {heads : List (ConfigurationHead F)}
    (fresh : ∀ head ∈ heads, kde.current head = true)
    (unasked : ∀ head ∈ heads, head.output = o → head.asked.contains property = false)
    {d : Device F} (found : kde.devices[o]? = some d) :
    ∃ now, (kde.writeHeads heads).devices[o]? = some now ∧ d.Same now property := by
  rw [devices_writeHeads]
  exact commitHeads_same fresh unasked found found (.refl d property) rfl

theorem writeHeads_position [DecidableEq F] {heads : List (ConfigurationHead F)}
    (fresh : ∀ head ∈ heads, kde.current head = true) (manual : kde.byHand heads = true)
    (unasked : ∀ head ∈ heads, head.output = o → head.asked.contains .position = false) :
    (kde.writeHeads heads).position o = kde.position o := by
  cases found : kde.devices[o]? with
  | none =>
    have still := commitHeads_missing found heads
    rw [← devices_writeHeads] at still
    rw [position_of_missing still, position_of_missing found]
  | some =>
    obtain ⟨now, shown, _⟩ := writeHeads_settings fresh unasked found
    apply position_of_holds _ shown
    apply holds_placeHeads
    · intro head mem here
      have one := fresh head mem
      simp only [current, unasked head mem here, Bool.false_or, Bool.and_eq_true, beq_iff_eq] at one
      rw [← here, one.1]
    · by_cases named : ∃ head ∈ heads, head.output = o
      · exact .inr named
      · have unnamed : ∀ head ∈ heads, head.output ≠ o := fun head mem here => named ⟨head, mem, here⟩
        exact .inl ((holds_of_byHand manual unnamed found).commitHeads heads)

theorem OnlyAsked.refl (kde : KdeOutputs F) (cfg : Configuration F) : kde.OnlyAsked kde cfg where
  primary _ := rfl
  settings _ property _ d found := ⟨d, found, .refl d property⟩
  positions _ _ := rfl

theorem isOn_commitHeads (kde : KdeOutputs F) (heads : List (ConfigurationHead F)) (o : Nat) :
    (kde.commitHeads heads).isOn o = kde.leavesOn heads o := by
  induction heads generalizing kde with
  | nil =>
    unfold leavesOn isOn
    cases found : kde.devices[o]? <;> simp [commitHeads, found]
  | cons head rest ih =>
    have next := ih (kde.commit head.output (·.commit head))
    unfold leavesOn isOn at next ⊢
    rw [devices_commit, List.getElem?_modify] at next
    refine next.trans ?_
    rw [List.foldl_cons]
    cases kde.devices[o]? with
    | none => rfl
    | some device => by_cases here : head.output = o <;> simp [here, Device.commit]

theorem choosePrimary_kept {cfg : Configuration F} (keeps : kde.keepsPrimary cfg = true) :
    (kde.writeHeads cfg.heads).choosePrimary cfg.primary = kde.primary := by
  have on (o : Nat) : (kde.writeHeads cfg.heads).isOn o = kde.leavesOn cfg.heads o := by
    rw [← isOn_commitHeads]
    unfold isOn
    rw [devices_writeHeads]
  rw [keepsPrimary, Bool.and_eq_true, beq_iff_eq] at keeps
  obtain ⟨captured, left⟩ := keeps
  rw [captured]
  unfold choosePrimary
  cases chosen : kde.primary with
  | some o =>
    rw [chosen] at left
    rw [Option.any_some, on, if_pos left]
  | none =>
    rw [chosen] at left
    have os : (kde.writeHeads cfg.heads).outputs = kde.outputs := congrArg Prod.fst (references_writeHeads kde cfg.heads)
    rw [Option.any_none, if_neg Bool.false_ne_true, firstOn, os, List.find?_eq_none]
    intro o present
    rw [on]
    simpa using List.all_eq_true.mp left o present

/-- The part of a configuration that is committed before it is refused. -/
theorem commitHeads_onlyAsked [DecidableEq F] {cfg : Configuration F} {part : List (ConfigurationHead F)}
    (among : ∀ head ∈ part, head ∈ cfg.heads) (fresh : ∀ head ∈ part, kde.current head = true)
    (manual : kde.byHand [] = true) : kde.OnlyAsked (kde.commitHeads part) cfg := by
  have unasked {o : Nat} {property : Property} (none : cfg.asked o property = false) :
      ∀ head ∈ part, head.output = o → head.asked.contains property = false := by
    intro head mem here
    simpa [here] using List.any_eq_false.mp none head (among head mem)
  constructor
  · exact fun _ => congrArg (fun references => references.2.1) (references_commitHeads kde part)
  · intro o property none d found
    exact commitHeads_same fresh (unasked none) found found (.refl d property) rfl
  · intro o none
    cases found : kde.devices[o]? with
    | none => rw [position_of_missing (commitHeads_missing found part), position_of_missing found]
    | some =>
      obtain ⟨now, shown, _⟩ := commitHeads_same fresh (unasked none) found found (.refl _ .position) rfl
      exact position_of_holds ((holds_of_byHand manual nofun found).commitHeads part) shown

theorem applyConfiguration_onlyAsked [DecidableEq F] {cfg : Configuration F}
    (fresh : ∀ head ∈ cfg.heads, kde.current head = true) (manual : kde.byHand cfg.heads = true)
    (primary : cfg.askedPrimary = false → kde.keepsPrimary cfg = true) :
    kde.OnlyAsked ((kde.writeHeads cfg.heads).setPrimary cfg.primary).updateOutputs cfg := by
  have unasked {o : Nat} {property : Property} (none : cfg.asked o property = false) :
      ∀ head ∈ cfg.heads, head.output = o → head.asked.contains property = false := by
    intro head mem here
    simpa [here] using List.any_eq_false.mp none head mem
  constructor
  · exact fun free => choosePrimary_kept (primary free)
  · exact fun o property none d found => writeHeads_settings fresh (unasked none) found
  · exact fun o none => writeHeads_position fresh manual (unasked none)

end

/-- In every run whose applied configurations are up to date, applying one changes only
what its client asked for. -/
theorem along_appliesOnlyAsked [DecidableEq F] (events : List (KdeEvent F))
    (fresh : Transition.Along step (fun kde event => kde.upToDate event = true) create events) :
    Transition.Along step AppliesOnlyAsked create events := by
  refine fresh.mono fun (kde : KdeOutputs F) (event : KdeEvent F) (current : kde.upToDate event = true) => ?_
  cases event with
  | configureApply id refused =>
    intro configuration found
    simp only [upToDate, found, Option.all_some, Bool.or_eq_true] at current
    simp only [configureApply, found]
    split
    case isTrue => exact .refl kde configuration
    case isFalse pending =>
      have current := current.resolve_left pending
      have only : kde.OnlyAsked (kde.applyConfiguration configuration refused) configuration := by
        unfold applyConfiguration
        cases ended : if configuration.heads.isEmpty then none else refused with
        | none =>
          simp only [ended, Bool.and_eq_true, Bool.or_eq_true, List.all_eq_true] at current
          obtain ⟨⟨heads, manual⟩, primary⟩ := current
          exact applyConfiguration_onlyAsked heads manual fun free => primary.resolve_left (by simp [free])
        | some committed =>
          simp only [ended, Bool.and_eq_true, Bool.or_eq_true, List.all_eq_true, beq_iff_eq] at current
          rcases current with rfl | ⟨heads, manual⟩
          · exact .refl kde configuration
          · exact commitHeads_onlyAsked (fun head mem => List.mem_of_mem_take mem) heads manual
      exact ⟨only.primary, only.settings, only.positions⟩
  | _ => trivial

/-- An output of a desk, in its own mode. -/
def screen (name : String) : Device Nat := ⟨name, true, ⟨1920, 1080, 60000⟩, true, .normal, 1, false, false⟩

/-- Two outputs side by side, placed by hand. -/
def desk : List (KdeEvent Nat) :=
  [.addOutput (screen "left"), .place 0 0 0 false, .addOutput (screen "right"), .place 1 1920 0 false]

theorem along_appliesOnlyAsked_once :
    let events := desk ++ [.createConfiguration 1, .createConfiguration 2, .configureScale 1 0 512,
      .configureTransform 2 1 1, .configureApply 2 none, .configureApply 1 none]
    Transition.Along step (fun kde event => kde.upToDate event = true) create events ∧
      Transition.Along step AppliesOnlyAsked create events :=
  ⟨by decide +kernel, along_appliesOnlyAsked _ (by decide +kernel)⟩

/-- A configuration that sets nothing takes the primary output back from another one;
one that scales an output turns it back; and in a layout that was not made by hand, the
other output changes its place. -/
theorem not_appliesOnlyAsked_of_captured :
    (¬ AppliesOnlyAsked (Transition.run step create (desk ++ [.createConfiguration 1, .createConfiguration 2,
      .configurePrimary 2 1, .configureApply 2 none])) (.configureApply 1 none)) ∧
    (¬ AppliesOnlyAsked (Transition.run step create (desk ++ [.createConfiguration 1, .createConfiguration 2,
      .configureScale 1 0 512, .configureTransform 2 0 1, .configureApply 2 none])) (.configureApply 1 none)) ∧
    (¬ AppliesOnlyAsked (Transition.run step create [.addOutput (screen "left"), .place 0 0 0 true,
      .addOutput (screen "right"), .place 1 0 0 true, .createConfiguration 1, .configureScale 1 1 512])
      (.configureApply 1 none)) := by
  refine ⟨fun only => ?_, fun only => ?_, fun only => ?_⟩
  · have kept := (only _ rfl).primary rfl
    exact absurd kept (by decide +kernel)
  · obtain ⟨now, found, same⟩ := (only _ rfl).settings 0 .transform (by decide +kernel) _ rfl
    have turned := (congrArg (Option.map Device.transform) found).trans (congrArg some same)
    exact absurd turned (by decide +kernel)
  · have kept := (only _ rfl).positions 0 (by decide +kernel)
    exact absurd kept (by decide +kernel)

end KdeOutputs

end FlakeWM.Screen
