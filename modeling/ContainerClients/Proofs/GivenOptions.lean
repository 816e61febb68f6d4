import ContainerClients.Proofs.ListedMounts

/-!
# Options that are given hide the environment

A configuration is made from options and from four variables of the environment.  An option that is
given keeps its variable from being looked at, so whatever the variable holds, also if it cannot be
read, neither changes the configuration, nor makes it fail, nor is reported.  What counts as given
depends on the option: mounts when there is one among them, the image and the container name unless
they are empty, the priority unless it is nothing at all, so that 0 is given.

* `CatalogArguments.LeaveAlike` — two environments agree on the variables that are looked at.
* `mountsFrom_congr`, `valueFrom_congr`, `priorityFrom_congr` — option by option, only these count.
* `CatalogConfig.Settles` — what the image, the name and the priority of a configuration are.
* `CatalogConfig.settles_of_ofEnvironment` — every configuration that is made has them so.
* **`ofEnvironment_of_leaveAlike`** — in two such environments the same configuration is made, or it
  fails alike, with the same reports; and the options that are given are those of the configuration.
-/

namespace ContainerClients

open ContainerClients.Text

/-! ## What is looked at -/

namespace Environment

variable {env env' : Environment} {v : Variable}

lemma strippedText_congr (h : env v = env' v) : env.strippedText v = env'.strippedText v := by
  rw [strippedText, strippedText, text, text, h]

lemma items_congr (h : env v = env' v) : env.items v = env'.items v := by
  rw [items, items, text, text, h]

end Environment

/-- **Two environments are alike in what the arguments leave to them.**  Each variable counts only
where the option that goes before it is not given. -/
structure CatalogArguments.LeaveAlike (arguments : CatalogArguments) (env env' : Environment) :
    Prop where
  /-- the mounts, if there is none among those that are given -/
  mounts : Mapping.ofDatum (arguments.given "path_mappings") = .ok [] → env .mounts = env' .mounts
  /-- the image, if the one that is given is empty or missing -/
  image : (arguments.given "docker_image_id").isTruthy = false → env .image = env' .image
  /-- the container name, likewise -/
  containerName : (arguments.given "docker_container_name").isTruthy = false →
    env .containerName = env' .containerName
  /-- the priority, if none is given -/
  priority : arguments.given "priority" = .null → env .priority = env' .priority

namespace CatalogConfig

variable {env env' : Environment} {v : Variable} {given : Datum}

/-- Mounts of the environment count only where there is none among those that are given. -/
lemma mountsFrom_congr (h : Mapping.ofDatum given = .ok [] → env .mounts = env' .mounts) :
    mountsFrom env given = mountsFrom env' given := by
  cases hgiven : Mapping.ofDatum given with
  | error failure => rw [mountsFrom, mountsFrom, hgiven]; rfl
  | ok mapping =>
    cases mapping with
    | nil => rw [mountsFrom, mountsFrom, Environment.items_congr (h hgiven)]
    | cons mount rest =>
      rw [mountsFrom_of_given hgiven (List.cons_ne_nil mount rest),
        mountsFrom_of_given hgiven (List.cons_ne_nil mount rest)]

/-- A variable counts only where the value before it is empty. -/
lemma valueFrom_congr (h : given.isTruthy = false → env v = env' v) :
    valueFrom env v given = valueFrom env' v given := by
  by_cases hgiven : given.isTruthy
  · rw [valueFrom, valueFrom, if_pos hgiven, if_pos hgiven]
  · rw [valueFrom, valueFrom, Environment.strippedText_congr (h (Bool.eq_false_iff.2 hgiven))]

/-- The priority of the environment counts, and is read at all, only where none is given. -/
lemma priorityFrom_congr (h : given = .null → env .priority = env' .priority) :
    priorityFrom env given = priorityFrom env' given := by
  cases given with
  | null =>
    rw [priorityFrom, priorityFrom, environmentPriority, environmentPriority,
      Environment.strippedText_congr (h rfl)]
  | _ => rfl

/-- A priority that is given is the one that counts, and nothing is reported. -/
lemma priorityFrom_of_ne (h : given ≠ .null) : priorityFrom env given = (some given, []) := by
  cases given with
  | null => exact absurd rfl h
  | _ => rfl

/-- **Environments that are alike in what is left to them fill in the same.** -/
lemma filledArguments_of_leaveAlike {arguments : CatalogArguments}
    (h : arguments.LeaveAlike env env') :
    filledArguments env arguments = filledArguments env' arguments :=
  filledArguments_congr (mountsFrom_congr h.mounts) (valueFrom_congr h.image)
    (valueFrom_congr h.containerName) (priorityFrom_congr h.priority) rfl rfl

/-! ## What a configuration has -/

/-- **The image, the container name and the priority of a configuration**: what is given, else what
the environment says, else the default. -/
structure Settles (env : Environment) (arguments : CatalogArguments) (config : CatalogConfig) :
    Prop where
  /-- the image -/
  image_eq : config.image
    = (valueFrom env .image (arguments.given "docker_image_id")).getD defaultImage
  /-- the container name -/
  containerName_eq : config.containerName
    = (valueFrom env .containerName (arguments.given "docker_container_name")).getD
        defaultContainerName
  /-- the priority -/
  priority_eq : config.priority
    = (priorityFrom env (arguments.given "priority")).1.getD defaultPriority

section Fields

variable {key name : String} {fields others : List (String × Datum)}

lemma field?_append :
    Datum.field? key (fields ++ others)
      = (Datum.field? key fields).or (Datum.field? key others) := by
  rw [Datum.field?, List.find?_append, Option.map_or]
  rfl

lemma field?_argument (value : Option Datum) :
    Datum.field? key (argument name value) = if name = key then value else none := by
  cases value with
  | none => exact (ite_self none).symm
  | some d => by_cases h : name = key <;> simp [argument, Datum.field?, h]

/-- What the environment fills in is not among the other arguments. -/
lemma field?_withoutNulls_others {arguments : CatalogArguments} (h : key ∈ filledNames) :
    Datum.field? key (withoutNulls arguments.others) = none := by
  rw [Datum.field?, Option.map_eq_none_iff, List.find?_eq_none]
  intro entry hentry hkey
  have hother := (List.mem_filter.1 (List.mem_of_mem_filter hentry)).2
  rw [beq_iff_eq.1 hkey] at hother
  simp [h] at hother

end Fields

/-- A configuration of arguments has the values that are given, or the defaults. -/
lemma values_of_ofArguments {arguments : CatalogArguments} {config : CatalogConfig}
    (h : ofArguments arguments = .ok config) :
    config.image = (Datum.field? "docker_image_id" arguments.values).getD defaultImage
      ∧ config.containerName
        = (Datum.field? "docker_container_name" arguments.values).getD defaultContainerName
      ∧ config.priority = (Datum.field? "priority" arguments.values).getD defaultPriority := by
  rw [ofArguments] at h
  split at h
  · contradiction
  · dsimp only at h
    split at h
    · contradiction
    · obtain ⟨mapping, -, h⟩ := bind_eq_ok_iff.1 h
      obtain ⟨packages, -, h⟩ := bind_eq_ok_iff.1 h
      obtain ⟨specs, -, h⟩ := bind_eq_ok_iff.1 h
      split at h
      · contradiction
      · obtain rfl := Except.ok.inj h
        exact ⟨rfl, rfl, rfl⟩

/-- The arguments that are filled in, one after the other. -/
lemma exists_values_of_filledArguments {arguments filled : CatalogArguments} {log : Log}
    (h : filledArguments env arguments = .ok (filled, log)) :
    ∃ mapping : Mapping, filled.values
      = [("path_mappings", mapping.toDatum)]
        ++ argument "docker_image_id" (valueFrom env .image (arguments.given "docker_image_id"))
        ++ argument "docker_container_name"
            (valueFrom env .containerName (arguments.given "docker_container_name"))
        ++ argument "priority" (priorityFrom env (arguments.given "priority")).1
        ++ withoutNulls arguments.others := by
  obtain ⟨mapping, -, hvalues⟩ := bind_eq_ok_iff.1 h
  obtain ⟨hfilled, -⟩ := Prod.mk.inj (Except.ok.inj hvalues)
  exact ⟨mapping, (congrArg CatalogArguments.values hfilled).symm⟩

/-- **Every configuration that is made has its values so.** -/
lemma settles_of_ofEnvironment {arguments : CatalogArguments} {config : CatalogConfig} {log : Log}
    (h : ofEnvironment env arguments = (.ok config, log)) : Settles env arguments config := by
  rw [ofEnvironment] at h
  cases hfilled : filledArguments env arguments with
  | error failure =>
    rw [hfilled] at h
    exact absurd (congrArg Prod.fst h) (by simp)
  | ok filled =>
    rw [hfilled] at h
    obtain ⟨himage, hname, hpriority⟩ := values_of_ofArguments (congrArg Prod.fst h)
    obtain ⟨mapping, hvalues⟩ := exists_values_of_filledArguments hfilled
    have hothers (key : String) (hkey : key ∈ filledNames) :
        Datum.field? key (withoutNulls arguments.others) = none :=
      field?_withoutNulls_others hkey
    have hmounts (key : String) (hkey : "path_mappings" ≠ key) :
        Datum.field? key [("path_mappings", mapping.toDatum)] = none :=
      (field?_argument (some mapping.toDatum)).trans (if_neg hkey)
    rw [hvalues] at himage hname hpriority
    simp only [field?_append, field?_argument] at himage hname hpriority
    rw [hothers _ (by decide), hmounts _ (by decide)] at himage hname hpriority
    exact ⟨by simpa using himage, by simpa using hname, by simpa using hpriority⟩

/-- **Options that are given hide the environment.**  In two environments that are alike in what the
arguments leave to them, the same configuration is made, or it fails alike, and the same is
reported.  A configuration that is made has the image and the container name that are given, unless
these are empty, and the priority that is given, whatever it is. -/
theorem ofEnvironment_of_leaveAlike {arguments : CatalogArguments}
    (h : arguments.LeaveAlike env env') :
    ofEnvironment env arguments = ofEnvironment env' arguments
      ∧ ∀ config log, ofEnvironment env arguments = (.ok config, log) →
        ((arguments.given "docker_image_id").isTruthy →
          config.image = arguments.given "docker_image_id")
        ∧ ((arguments.given "docker_container_name").isTruthy →
          config.containerName = arguments.given "docker_container_name")
        ∧ (arguments.given "priority" ≠ .null → config.priority = arguments.given "priority") := by
  refine ⟨?_, fun config log hmade => ?_⟩
  · rw [ofEnvironment, ofEnvironment, filledArguments_of_leaveAlike h]
  · have hsettles := settles_of_ofEnvironment hmade
    refine ⟨fun himage => ?_, fun hname => ?_, fun hpriority => ?_⟩
    · rw [hsettles.image_eq, valueFrom, if_pos himage, Option.getD_some]
    · rw [hsettles.containerName_eq, valueFrom, if_pos hname, Option.getD_some]
    · rw [hsettles.priority_eq, priorityFrom_of_ne hpriority, Option.getD_some]

/-- Arguments with a mount, an image and the priority 0. -/
def zeroArguments : CatalogArguments where
  values := [("path_mappings", .ofTexts ["/a:/b"]), ("docker_image_id", .text "img"),
    ("priority", .whole 0)]
  specs := none

/-- An environment in which neither the mounts nor the priority can be read. -/
def brokenEnvironment : Environment :=
  (Environment.empty.set .mounts (some "nothing")).set .priority (some "high")

/-- An environment that cannot be read does no harm to these arguments: the priority is 0. -/
theorem ofEnvironment_of_leaveAlike_zero :
    zeroArguments.LeaveAlike brokenEnvironment .empty
      ∧ (∃ config, ofEnvironment .empty zeroArguments = (.ok config, []))
      ∧ ofEnvironment brokenEnvironment zeroArguments = ofEnvironment .empty zeroArguments
      ∧ ∀ config log, ofEnvironment brokenEnvironment zeroArguments = (.ok config, log) →
        config.image = .text "img" ∧ config.priority = .whole 0 := by
  have hmapping : Mapping.ofDatum (zeroArguments.given "path_mappings") = .ok [⟨"/a", "/b"⟩] := rfl
  have himage : (zeroArguments.given "docker_image_id").isTruthy = true := rfl
  have hpriority : zeroArguments.given "priority" ≠ .null := by
    change Datum.whole 0 ≠ .null
    simp
  have halike : zeroArguments.LeaveAlike brokenEnvironment .empty := by
    refine ⟨fun hmounts => ?_, fun hempty => ?_, fun _ => rfl, fun hnull => absurd hnull hpriority⟩
    · rw [hmapping] at hmounts
      exact absurd (Except.ok.inj hmounts) (List.cons_ne_nil _ _)
    · rw [himage] at hempty
      contradiction
  obtain ⟨hsame, hgiven⟩ := ofEnvironment_of_leaveAlike halike
  refine ⟨halike, ⟨_, rfl⟩, hsame, fun config log hmade => ?_⟩
  obtain ⟨hofImage, -, hofPriority⟩ := hgiven config log hmade
  exact ⟨hofImage himage, hofPriority hpriority⟩

end CatalogConfig

end ContainerClients
