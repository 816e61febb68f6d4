import ContainerClients.Proofs.Filling
import ContainerClients.Proofs.ParsedMount

/-!
# Mappings that are read more than once

A mapping is read when the configuration is made, and again when a client is registered from it; a
configuration that is made from the environment has been through one more reading before.  Reading
is stripping, then trimming, and the two do not settle at once: behind the slashes that are trimmed
there can be a blank, which only the next reading strips.  So a mapping that was read is in normal
form, but a client has the mounts of its configuration exactly when no root ends in a blank.

* `CatalogConfig.exists_mounts_of_ofArguments` — the mounts of a configuration were read.
* `Catalog.Mounted` — every client that is reported has the mounts of the configuration, read again;
  `mounted_fillSpec` and `mounted_fill` — one specification keeps this, and so does a filling,
  whether or not it comes to its end.
* **`mounts_read_again`** — the normal form, and what becomes of it when it is read again.
-/

namespace ContainerClients

open ContainerClients.Container

/-! ## Clients of a filling -/

/-- **The mounts of a configuration that is made of arguments were read.** -/
lemma CatalogConfig.exists_mounts_of_ofArguments {arguments : CatalogArguments}
    {config : CatalogConfig} (h : ofArguments arguments = .ok config) :
    ∃ mounts, Mapping.ofDatum mounts = .ok config.mapping := by
  rw [ofArguments] at h
  split at h
  · contradiction
  · dsimp only at h
    split at h
    · contradiction
    · rename_i mounts hgiven
      obtain ⟨mapping, hmapping, h⟩ := bind_eq_ok_iff.1 h
      obtain ⟨packages, -, h⟩ := bind_eq_ok_iff.1 h
      obtain ⟨specs, -, h⟩ := bind_eq_ok_iff.1 h
      split at h
      · contradiction
      · obtain rfl := Except.ok.inj h
        exact ⟨mounts, hmapping⟩

namespace Catalog

variable {config : CatalogConfig} {launcher : Launcher} {progress : Progress}

/-- **Every client that is reported has the mounts of the configuration, read again.** -/
def Mounted (config : CatalogConfig) (progress : Progress) : Prop :=
  ∀ d, progress.report.hasRegistered d →
    ∃ client own, progress.holdings.registry.get? d = some client
      ∧ client.IsMadeBy own
      ∧ Mapping.ofDatum config.mapping.toDatum = .ok own.mapping

/-- One specification keeps this. -/
lemma mounted_fillSpec (h : Mounted config progress) (spec : ServerSpec) :
    Mounted config (fillSpec config launcher progress spec).1 := by
  cases hspec : registerSpec config launcher progress.holdings.registry spec with
  | error failure =>
      obtain ⟨hholdings, hregistered⟩ := fillSpec_of_error hspec
      intro d hd
      rw [Report.hasRegistered, hregistered] at hd
      rw [hholdings]
      exact h d hd
  | ok registration =>
      intro d hd
      rw [fillSpec_of_ok hspec] at hd ⊢
      have hregistry : (progress.succeed registration).holdings.registry
          = progress.holdings.registry.register registration.client :=
        registry_of_registerSpec hspec
      rw [hregistry, Registry.get?_register]
      -- the client of this turn stands under its own id, and hides one that stood there
      by_cases hkey : d.key = registration.client.id.key
      · obtain ⟨-, source, command, mapping, id, -, -, hmapping, -, rfl⟩ :=
          exists_of_registerSpec hspec
        exact ⟨_, _, if_pos hkey, Client.isMadeBy_inContainer _ _, hmapping⟩
      · rw [if_neg hkey]
        have hold := (Report.hasRegistered_succeed progress.report registration.client.id d).1 hd
        exact h d (hold.resolve_left fun he => hkey he.symm)

/-- A filling comes to this, whether or not it comes to its end. -/
lemma mounted_fill (around : Surroundings) (options : LoadOptions) (launcher : Launcher)
    (config : CatalogConfig) (holdings : Holdings) :
    Mounted config (fill around options launcher config holdings).1 := by
  have hnew : ∀ (holdings : Holdings) (packages : Outcomes) (log : Log),
      Mounted config ⟨holdings, { packages }, log⟩ := by
    intro holdings packages log d hd
    simp [Report.hasRegistered] at hd
  rw [fill]
  split
  · exact hnew _ _ _
  · exact hnew _ _ _
  · exact kept_fillSpecs (fun progress spec _ h => mounted_fillSpec h spec) (hnew _ _ _)

end Catalog

/-! ## Reading again -/

/-- **What reading a mapping comes to, and reading it again.**

* A list that can be read gives one mount an item, in their order, and all roots are in normal form.
* What was read can be read again, mount by mount, and stays as it is exactly when no root ends in a
  blank.
* So the clients that are registered from a configuration have its mounts exactly when none of them
  has a root that ends in a blank. -/
theorem mounts_read_again :
    (∀ (items : List Datum) (mapping : Mapping), Mapping.ofDatum (.list items) = .ok mapping →
      List.Forall₂ Mount.Gives items mapping
      ∧ (∀ mount ∈ mapping,
          IsNormalRoot mount.host.toList ∧ IsNormalRoot mount.container.toList)
      ∧ Mapping.ofDatum mapping.toDatum = .ok (mapping.map Mount.reread)
      ∧ (mapping.map Mount.reread = mapping ↔ ∀ mount ∈ mapping, mount.IsSettled))
    ∧ ∀ (arguments : CatalogArguments) (config : CatalogConfig),
      (CatalogConfig.ofArguments arguments = .ok config
        ∨ ∃ env, (CatalogConfig.ofEnvironment env arguments).1 = .ok config) →
      ∀ around options launcher holdings,
        let filled := (Catalog.fill around options launcher config holdings).1
        ∀ d ∈ filled.report.registered,
          ∃ client own, filled.holdings.registry.get? d = some client
            ∧ client.IsMadeBy own
            ∧ own.mapping = config.mapping.map Mount.reread
            ∧ (own.mapping = config.mapping ↔ ∀ mount ∈ config.mapping, mount.IsSettled) := by
  constructor
  · intro items mapping h
    exact ⟨Mapping.ofDatum_list_eq_ok_iff.1 h, fun mount hm => Mapping.isNormalRoot_of_ofDatum h hm,
      Mapping.ofDatum_toDatum h, Mapping.map_reread_eq_self_iff h⟩
  · intro arguments config hmade around options launcher holdings filled d hd
    obtain ⟨mounts, hmounts⟩ : ∃ mounts, Mapping.ofDatum mounts = .ok config.mapping := by
      rcases hmade with hmade | ⟨env, hmade⟩
      · exact CatalogConfig.exists_mounts_of_ofArguments hmade
      · rw [CatalogConfig.ofEnvironment] at hmade
        split at hmade
        · exact CatalogConfig.exists_mounts_of_ofArguments hmade
        · contradiction
    have hreported : filled.report.hasRegistered d :=
      List.any_eq_true.2 ⟨d, hd, beq_self_eq_true _⟩
    obtain ⟨client, own, hclient, hmadeBy, hagain⟩ :=
      Catalog.mounted_fill around options launcher config holdings d hreported
    have hmapping : own.mapping = config.mapping.map Mount.reread :=
      Except.ok.inj (hagain.symm.trans (Mapping.ofDatum_toDatum hmounts))
    refine ⟨client, own, hclient, hmadeBy, hmapping, ?_⟩
    rw [hmapping]
    exact Mapping.map_reread_eq_self_iff hmounts

/-- A text, a pair with a blank behind the root of the host, and a record. -/
def mixedMounts : List Datum :=
  [.text " /a : /b// ", .ofTexts ["/h /", "c"],
   .record [("source", .text "/s"), ("destination", .text "//")]]

/-- What is read from them. -/
def mixedMapping : Mapping := [⟨"/a", "/b"⟩, ⟨"/h ", "c"⟩, ⟨"/s", "//"⟩]

/-- A configuration with these mounts. -/
def mixedConfig : CatalogConfig :=
  { Catalog.goOnly [.plain "gopls" "go-box" "gopls"] with
    mapping := mixedMapping
    mapping_ne_nil := List.cons_ne_nil _ _ }

/-- The arguments that it is made of. -/
def mixedArguments : CatalogArguments where
  values := [("path_mappings", .list mixedMounts), ("docker_image_id", .text "img"),
    ("docker_container_name", .text "box"), ("client_packages", .ofTexts ["go"])]
  specs := some (.specs [.plain "gopls" "go-box" "gopls"])

/-- The second mount loses its blank when it is read again, so the client that is registered does
not have the mounts of its configuration. -/
theorem mounts_read_again_blank :
    Mapping.ofDatum (.list mixedMounts) = .ok mixedMapping
    ∧ Mapping.ofDatum mixedMapping.toDatum = .ok [⟨"/a", "/b"⟩, ⟨"/h", "c"⟩, ⟨"/s", "//"⟩]
    ∧ CatalogConfig.ofArguments mixedArguments = .ok mixedConfig
    ∧ let filled := (Catalog.fill Catalog.bundledOnly {} .standard mixedConfig .initial).1
      .text "go-box" ∈ filled.report.registered
      ∧ ∃ client own, filled.holdings.registry.get? (.text "go-box") = some client
        ∧ client.IsMadeBy own
        ∧ own.mapping = [⟨"/a", "/b"⟩, ⟨"/h", "c"⟩, ⟨"/s", "//"⟩]
        ∧ own.mapping ≠ mixedConfig.mapping := by
  have hread : Mapping.ofDatum (.list mixedMounts) = .ok mixedMapping := rfl
  have hmade : CatalogConfig.ofArguments mixedArguments = .ok mixedConfig := rfl
  have hreported : .text "go-box" ∈
      (Catalog.fill Catalog.bundledOnly {} .standard mixedConfig .initial).1.report.registered :=
    List.mem_singleton.2 rfl
  have hunsettled : ¬ ∀ mount ∈ mixedMapping, mount.IsSettled := by decide
  obtain ⟨-, -, hagain, -⟩ := mounts_read_again.1 _ _ hread
  obtain ⟨client, own, hclient, hmadeBy, hmapping, hsame⟩ :=
    mounts_read_again.2 _ _ (.inl hmade) _ _ _ _ _ hreported
  exact ⟨hread, hagain, hmade, hreported, client, own, hclient, hmadeBy, hmapping,
    fun h => hunsettled (hsame.1 h)⟩

end ContainerClients
