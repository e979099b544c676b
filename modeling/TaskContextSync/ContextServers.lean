import Mathlib.Data.List.Basic

/-!
# Uninstalling an MCP server

The panel's MCP section has, for each configured context server, a menu whose `Uninstall`
entry (`uninstallContextServer`) removes the server's entry from the project settings. When
the server is configured as an extension's, it first looks up the installed extension that
provides it (`resolveExtensionForContextServer`): if that extension provides nothing but one
context server (`extensionOnlyProvidesContextServer`), it is uninstalled, and the settings
entry is removed once that succeeded; if it provides more, a toast asks whether to uninstall
it anyway, and its `Uninstall` action (`confirmUninstall`) does so.

The entry never uninstalls an extension on its own but one that is installed and provides
this server and nothing else (`uninstallExtension_mem_uninstallContextServer`). When the
extension provides more, the settings entry is removed at once, before the toast is answered.

An extension's manifest is kept as the names of what it provides; the check reads only how
many context servers there are and whether the rest is empty.
-/

namespace TaskContextSync

/-- What `extension_only_provides_context_server` and the lookup read of an
`ExtensionManifest`: the names of the context servers, themes, icon themes, languages,
grammars, language servers, slash commands and indexed-docs providers it provides, its
snippets file, and its debug locators. -/
structure ExtensionManifest where
  contextServers : List String
  themes : List String
  iconThemes : List String
  languages : List String
  grammars : List String
  languageServers : List String
  slashCommands : List String
  indexedDocsProviders : List String
  snippets : Option String
  debugLocators : List String
deriving DecidableEq, Repr

/-- The manifest of an extension that provides the context server `id` and nothing else. -/
def ExtensionManifest.serverOnly (id : String) : ExtensionManifest :=
  ⟨[id], [], [], [], [], [], [], [], none, []⟩

/-- `extension_only_provides_context_server`. -/
def extensionOnlyProvidesContextServer (manifest : ExtensionManifest) : Bool :=
  manifest.contextServers.length == 1 && manifest.themes.isEmpty && manifest.iconThemes.isEmpty &&
    manifest.languages.isEmpty && manifest.grammars.isEmpty && manifest.languageServers.isEmpty &&
    manifest.slashCommands.isEmpty && manifest.indexedDocsProviders.isEmpty &&
    manifest.snippets.isNone && manifest.debugLocators.isEmpty

/-- `resolve_extension_for_context_server`: the first installed extension, in the order of
their ids, whose manifest provides the server. -/
def resolveExtensionForContextServer (id : String) (installed : List (String × ExtensionManifest)) :
    Option (String × ExtensionManifest) :=
  installed.find? fun entry => entry.2.contextServers.contains id

/-- What `Uninstall` reads of a server's `ContextServerConfiguration`: whether it comes from
an extension. -/
inductive ContextServerConfiguration
  | custom
  | extension
deriving DecidableEq, Repr

/-- What an uninstall does outside the panel, in order. -/
inductive UninstallEffect
  | uninstallExtension (extensionId : String)
  | statusToast (message : String)
  | removeServerSettings (id : String)
deriving DecidableEq, Repr

/-- The text of the toast `show_unable_to_uninstall_extension_with_context_server` shows; it
names the server. -/
def unableToUninstallMessage (id : String) : String :=
  "The " ++ id ++ " extension provides more than just the MCP server. Proceed to uninstall anyway?"

/-- The `Uninstall` entry of server `id`'s menu, with whether uninstalling its extension
succeeds and whether the workspace is still there to show a toast: the uninstall task, then,
once it succeeded, the removal of the server's settings entry. -/
def uninstallContextServer (id : String) (configuration : Option ContextServerConfiguration)
    (installed : List (String × ExtensionManifest)) (uninstallOk workspaceOpen : Bool) :
    List UninstallEffect :=
  let isProvidedByExtension := configuration == some .extension
  match isProvidedByExtension, resolveExtensionForContextServer id installed with
  | true, some (extensionId, manifest) =>
    if extensionOnlyProvidesContextServer manifest then
      .uninstallExtension extensionId :: if uninstallOk then [.removeServerSettings id] else []
    else
      (if workspaceOpen then [.statusToast (unableToUninstallMessage id)] else []) ++
        [.removeServerSettings id]
  | _, _ => [.removeServerSettings id]

/-- The toast's `Uninstall` action: the extension that provides the server now, if any, is
uninstalled and the server's settings entry removed, the latter while the workspace is
still there. -/
def confirmUninstall (id : String) (installed : List (String × ExtensionManifest))
    (workspaceOpen : Bool) : List UninstallEffect :=
  match resolveExtensionForContextServer id installed with
  | some (extensionId, _) =>
    .uninstallExtension extensionId :: if workspaceOpen then [.removeServerSettings id] else []
  | none => []

/-- The extension found for a server is installed and provides it. -/
theorem resolveExtensionForContextServer_mem {id extensionId : String}
    {installed : List (String × ExtensionManifest)} {manifest : ExtensionManifest}
    (h : resolveExtensionForContextServer id installed = some (extensionId, manifest)) :
    (extensionId, manifest) ∈ installed ∧ id ∈ manifest.contextServers := by
  unfold resolveExtensionForContextServer at h
  have hprovides := List.find?_some h
  exact ⟨List.mem_of_find?_eq_some h, List.elem_iff.mp hprovides⟩

/-- What `Uninstall` does: for a server configured as an extension's whose extension is
found, the uninstall or the toast, and otherwise only the removal of the settings entry. -/
theorem uninstallContextServer_cases (id : String)
    (configuration : Option ContextServerConfiguration)
    (installed : List (String × ExtensionManifest)) (uninstallOk workspaceOpen : Bool) :
    (∃ extensionId manifest, configuration = some .extension ∧
        resolveExtensionForContextServer id installed = some (extensionId, manifest) ∧
        uninstallContextServer id configuration installed uninstallOk workspaceOpen =
          if extensionOnlyProvidesContextServer manifest then
            .uninstallExtension extensionId :: if uninstallOk then [.removeServerSettings id] else []
          else
            (if workspaceOpen then [.statusToast (unableToUninstallMessage id)] else []) ++
              [.removeServerSettings id]) ∨
      ((configuration = some .extension → resolveExtensionForContextServer id installed = none) ∧
        uninstallContextServer id configuration installed uninstallOk workspaceOpen =
          [.removeServerSettings id]) := by
  rcases hresolve : resolveExtensionForContextServer id installed with _ | ⟨extensionId, manifest⟩
  · refine .inr ⟨fun _ => rfl, ?_⟩
    rcases configuration with _ | _ | _ <;> simp [uninstallContextServer, hresolve]
  · rcases configuration with _ | _ | _
    · exact .inr ⟨nofun, by simp [uninstallContextServer]⟩
    · exact .inr ⟨nofun, by simp [uninstallContextServer]⟩
    · exact .inl ⟨extensionId, manifest, rfl, rfl, by simp [uninstallContextServer, hresolve]⟩

/-- An extension that provides only a context server, among them `id`, provides `id` and
nothing else. -/
theorem eq_serverOnly_of_extensionOnlyProvidesContextServer {id : String}
    {manifest : ExtensionManifest} (hmem : id ∈ manifest.contextServers)
    (h : extensionOnlyProvidesContextServer manifest = true) :
    manifest = ExtensionManifest.serverOnly id := by
  obtain ⟨contextServers, themes, iconThemes, languages, grammars, languageServers, slashCommands,
    indexedDocsProviders, snippets, debugLocators⟩ := manifest
  simp only [extensionOnlyProvidesContextServer, Bool.and_eq_true, beq_iff_eq, List.isEmpty_iff,
    Option.isNone_iff_eq_none, and_assoc] at h
  obtain ⟨hone, rfl, rfl, rfl, rfl, rfl, rfl, rfl, rfl, rfl⟩ := h
  obtain ⟨a, rfl⟩ := List.length_eq_one.mp hone
  rw [List.mem_singleton.mp hmem]
  rfl

/-- **Uninstall never removes the wrong extension.** The `Uninstall` entry of a server's menu
uninstalls an extension only when the server is configured as an extension's, and then one
that is installed and provides this server and nothing else. -/
theorem uninstallExtension_mem_uninstallContextServer {id extensionId : String}
    {configuration : Option ContextServerConfiguration}
    {installed : List (String × ExtensionManifest)} {uninstallOk workspaceOpen : Bool}
    (h : .uninstallExtension extensionId ∈
      uninstallContextServer id configuration installed uninstallOk workspaceOpen) :
    configuration = some .extension ∧ (extensionId, ExtensionManifest.serverOnly id) ∈ installed := by
  rcases uninstallContextServer_cases id configuration installed uninstallOk workspaceOpen with
    ⟨e, manifest, hprovided, hresolve, heq⟩ | ⟨-, heq⟩
  · rw [heq] at h
    obtain ⟨hinstalled, hmem⟩ := resolveExtensionForContextServer_mem hresolve
    cases honly : extensionOnlyProvidesContextServer manifest
    · cases workspaceOpen <;> simp [honly] at h
    · have he : extensionId = e := by cases uninstallOk <;> simpa [honly] using h
      subst he
      exact ⟨hprovided, eq_serverOnly_of_extensionOnlyProvidesContextServer hmem honly ▸ hinstalled⟩
  · simp [heq] at h

theorem uninstallExtension_mem_serverOnly :
    UninstallEffect.uninstallExtension "ext" ∈ uninstallContextServer "srv" (some .extension)
        [("ext", .serverOnly "srv")] true true ∧
      (some ContextServerConfiguration.extension = some .extension ∧
        ("ext", ExtensionManifest.serverOnly "srv") ∈ [("ext", ExtensionManifest.serverOnly "srv")]) :=
  have h : UninstallEffect.uninstallExtension "ext" ∈ uninstallContextServer "srv" (some .extension)
      [("ext", .serverOnly "srv")] true true := by decide
  ⟨h, uninstallExtension_mem_uninstallContextServer h⟩

end TaskContextSync
