import AirflowDeploy.Proofs.Deploy.Organization
import AirflowDeploy.Proofs.Platform.Addresses

/-!
# The addresses of a domain

The root of the service is derived from a domain without the slashes at its end. The registry, the
repository and the dashboard are derived from the domain as it is written, so that each slash at its
end makes other ones of them.
-/
namespace AirflowDeploy.Deploy

open Dialogue

variable {domain organization releaseName : String}

/-- A name between two slashes of a repository. -/
structure IsComponent (text : String) : Prop where
  ne_empty : text ≠ ""
  slash : '/' ∉ text.toList
  colon : ':' ∉ text.toList

instance (text : String) : Decidable (IsComponent text) :=
  decidable_of_iff (text ≠ "" ∧ '/' ∉ text.toList ∧ ':' ∉ text.toList)
    ⟨fun ⟨hne, hslash, hcolon⟩ => ⟨hne, hslash, hcolon⟩,
      fun h => ⟨h.ne_empty, h.slash, h.colon⟩⟩

/-- Components that are parted by single slashes, without a scheme. -/
structure IsRepository (text : String) : Prop where
  schemeless : ¬ "://".toList <:+: text.toList
  components : [] ∉ Text.pieces (· == '/') text.toList

/-- A scheme leaves an empty component behind it. -/
theorem isRepository_iff_components {text : String} :
    IsRepository text ↔ [] ∉ Text.pieces (· == '/') text.toList := by
  refine ⟨fun h => h.components, fun h => ⟨fun hscheme => h ?_, h⟩⟩
  have hslashes : ['/', '/'] <:+: "://".toList := ⟨[':'], [], by decide⟩
  have htext : text.toList <:+: '/' :: (text.toList ++ ['/']) := ⟨['/'], ['/'], by simp⟩
  exact (Text.nil_mem_pieces_iff '/' _).mpr ((hslashes.trans hscheme).trans htext)

instance (text : String) : Decidable (IsRepository text) :=
  decidable_of_iff _ isRepository_iff_components.symm

theorem pieces_repository (horganization : IsComponent organization)
    (hrelease : IsComponent releaseName) (registry : String) :
    Text.pieces (· == '/') (repository registry organization releaseName).toList =
      Text.pieces (· == '/') registry.toList ++ [organization.toList, releaseName.toList] := by
  have hsingle {text : String} (h : IsComponent text) :
      Text.pieces (· == '/') text.toList = [text.toList] :=
    Text.pieces_eq_singleton fun _ => Text.beq_eq_false_of_notMem h.slash
  have htext : (repository registry organization releaseName).toList =
      registry.toList ++ '/' :: (organization.toList ++ '/' :: releaseName.toList) := by
    rw [repository, if_neg (by simpa using horganization.ne_empty)]
    simp
  rw [htext, Text.pieces_append_cons rfl, Text.pieces_append_cons rfl, hsingle horganization,
    hsingle hrelease]
  rfl

/-- The repository below the registry of a domain is in form exactly where no two slashes stand side
by side in the domain, and none at its end. -/
theorem isRepository_iff (horganization : IsComponent organization)
    (hrelease : IsComponent releaseName) :
    IsRepository (repository (registryHost domain) organization releaseName) ↔
      ¬ ['/', '/'] <:+: domain.toList ++ ['/'] := by
  have hregistry : (registryHost domain).toList = "images.".toList ++ domain.toList := by
    simp [registryHost]
  rw [isRepository_iff_components, pieces_repository horganization hrelease, hregistry,
    List.mem_append, Text.nil_mem_pieces_iff]
  -- None of the other components is empty, and the registry starts with one.
  simp [List.infix_cons_iff, horganization.ne_empty, hrelease.ne_empty]

/-- The domain with `n` more slashes. -/
def slashed (domain : String) (n : Nat) : String :=
  domain ++ String.ofList (List.replicate n '/')

theorem slashed_eq_self_iff {n : Nat} : slashed domain n = domain ↔ n = 0 := by
  simp [slashed]

theorem baseUrl_slashed (domain : String) (n : Nat) :
    Client.baseUrl (slashed domain n) = Client.baseUrl domain := by
  have hsame : Client.withoutSlashes (slashed domain n) = Client.withoutSlashes domain := by
    simp [Client.withoutSlashes, slashed]
  rw [Client.baseUrl_eq, hsame, Client.baseUrl_eq]

theorem registryHost_inj {domain' : String} :
    registryHost domain' = registryHost domain ↔ domain' = domain := by
  simp [registryHost]

theorem repository_registry_inj {registry registry' : String} :
    repository registry' organization releaseName = repository registry organization releaseName ↔
      registry' = registry := by
  unfold repository
  split <;> simp

theorem dashboardUrl_inj {domain' workspaceId deploymentId : String} :
    dashboardUrl domain' workspaceId deploymentId = dashboardUrl domain workspaceId deploymentId ↔
      domain' = domain := by
  unfold dashboardUrl
  rw [String.append_left_inj, String.append_left_inj, String.append_left_inj,
    String.append_left_inj, String.append_right_inj]

section Runs

variable {credentials : Context} {options : Options} {image repo repo' tag : String}
  {before before' after : List (Exchange outside)} {auth auth' : RegistryAuth}
  {answer : Except Fault Unit} {result result' : Except DeployError Report}

/-- A push to the addresses of what was looked up, with what a report tells of them. The first
exchange lists the workspaces. -/
structure PushedTo (options : Options) (t : Target) (before : List (Exchange outside))
    (image : String) (auth : RegistryAuth) (repo : String) (result : Except DeployError Report) :
    Prop where
  image_eq : image = t.image
  auth_eq : auth = t.auth
  repository_eq : repo = t.repository
  told : ∀ told, result = .ok told → told.deploymentId = t.deployment.id ∧
    told.dashboardUrl = dashboardUrl t.context.domain t.workspace.id t.deployment.id
  listed : ∃ workspaces, before.head? = some ⟨.listWorkspaces, .ok workspaces⟩ ∧
    workspaces.find? (·.id == requestedWorkspace t.context options) = some t.workspace

theorem pushedTo_of_push
    (h : Runs (deploy (some credentials) options)
      (before ++ ⟨.push image auth repo tag, answer⟩ :: after) result) :
    ∃ p : Prepared (some credentials) options, p.trace <+: before ∧
      p.target.context = credentials ∧
      PushedTo options p.target before image auth repo result := by
  obtain ⟨p, quiet, now, rfl, -, hquery, hreport⟩ := prepared_of_push h rfl
  obtain ⟨rfl, rfl, rfl, -⟩ := Query.push.inj hquery
  obtain ⟨workspaces, _, _, _, hselection, htarget, hworkspace, -⟩ :=
    ends_resolveTarget_ok p.resolves
  refine ⟨p, List.prefix_append _ _, htarget.trans p.credentials_eq, rfl, rfl, rfl, ?_, ?_⟩
  · rintro told hok
    obtain ⟨id, rfl⟩ := hreport told hok
    exact ⟨rfl, rfl⟩
  · refine ⟨workspaces, ?_, by rw [htarget, hworkspace]⟩
    simp [Prepared.trace, Built.trace, Resolved.trace, hselection]

/-- The same workspace is found by a deploy to a domain with more slashes, and the push and the
report have the same addresses only where there is no more slash. -/
theorem PushedTo.slashed_iff {t t' : Target} {n : Nat}
    (h : PushedTo options t before image auth repo result)
    (h' : PushedTo options t' before' image auth' repo' result')
    (hcontext : t'.context = { t.context with domain := slashed t.context.domain n })
    (hlisted : before'.head? = before.head?) :
    (auth'.registry = auth.registry ↔ n = 0) ∧ (repo' = repo ↔ n = 0) ∧
      ∀ told told', result = .ok told → result' = .ok told' →
        told'.deploymentId = told.deploymentId →
        (told'.dashboardUrl = told.dashboardUrl ↔ n = 0) := by
  have hworkspace : t'.workspace = t.workspace := by
    obtain ⟨workspaces, hhead, hfind⟩ := h.listed
    obtain ⟨workspaces', hhead', hfind'⟩ := h'.listed
    rw [hlisted, hhead] at hhead'
    cases hhead'
    rw [hcontext] at hfind'
    exact Option.some.inj (hfind'.symm.trans hfind)
  have horganization : t'.organization = t.organization := by
    rw [Target.organization, Target.organization, hcontext, hworkspace]
  have hrelease : t'.deployment.releaseName = t.deployment.releaseName := by
    have himage := h'.image_eq.symm.trans h.image_eq
    simpa [Target.image, ImageReference.ofRelease] using himage
  have hregistry : t'.registry = t.registry ↔ n = 0 := by
    rw [Target.registry, Target.registry, hcontext, registryHost_inj, slashed_eq_self_iff]
  refine ⟨?_, ?_, fun told told' hok hok' hsame => ?_⟩
  · rw [h.auth_eq, h'.auth_eq]
    exact hregistry
  · rw [h.repository_eq, h'.repository_eq, Target.repository, Target.repository, horganization,
      hrelease, repository_registry_inj, hregistry]
  · obtain ⟨hid, hurl⟩ := h.told told hok
    obtain ⟨hid', hurl'⟩ := h'.told told' hok'
    rw [hid, hid'] at hsame
    rw [hurl, hurl', hworkspace, hsame, hcontext, dashboardUrl_inj, slashed_eq_self_iff]

/-- The repository of a push is in form exactly where no two slashes stand side by side in the
domain, as behind a scheme, and none at its end. The root of the service does not depend on the
slashes at the end of the domain, but each of them makes another registry, another repository and
another dashboard. -/
theorem push_addresses {root : Url} (hroot : Client.baseUrl credentials.domain = .ok root)
    (h : Runs (deploy (some credentials) options)
      (before ++ ⟨.push image auth repo tag, answer⟩ :: after) result) :
    (∃ p : Prepared (some credentials) options, p.trace <+: before ∧
      repo = repository (registryHost credentials.domain) p.target.organization
        p.target.deployment.releaseName) ∧
    (∀ organization releaseName,
      repo = repository (registryHost credentials.domain) organization releaseName →
      IsComponent organization → IsComponent releaseName →
      (IsRepository repo ↔ ¬ ['/', '/'] <:+: credentials.domain.toList ++ ['/'])) ∧
    ∀ n, Client.baseUrl (slashed credentials.domain n) = .ok root ∧
      ∀ before' auth' repo' tag' answer' after' result',
        Runs (deploy (some { credentials with domain := slashed credentials.domain n }) options)
          (before' ++ ⟨.push image auth' repo' tag', answer'⟩ :: after') result' →
        before'.head? = before.head? →
        (auth'.registry = auth.registry ↔ n = 0) ∧ (repo' = repo ↔ n = 0) ∧
          ∀ told told', result = .ok told → result' = .ok told' →
            told'.deploymentId = told.deploymentId →
            (told'.dashboardUrl = told.dashboardUrl ↔ n = 0) := by
  obtain ⟨p, hprefix, hcontext, hpushed⟩ := pushedTo_of_push h
  refine ⟨⟨p, hprefix, ?_⟩, ?_, fun n => ⟨?_, ?_⟩⟩
  · rw [hpushed.repository_eq, Target.repository, Target.registry, hcontext]
  · rintro organization releaseName rfl horganization hrelease
    exact isRepository_iff horganization hrelease
  · rw [baseUrl_slashed, hroot]
  · intro before' auth' repo' tag' answer' after' result' h' hlisted
    obtain ⟨p', -, hcontext', hpushed'⟩ := pushedTo_of_push h'
    exact hpushed.slashed_iff hpushed' (by rw [hcontext', hcontext]) hlisted

end Runs

def domainContext (domain : String) : Context := { memberContext with domain }

/-- A deploy to a domain where nothing fails. -/
def domainRun (domain : String) : List (Exchange outside) × Except DeployError Report :=
  (deploy (some (domainContext domain)) (willingOptions .unchecked)).follow willing

/-- The push of this deploy. -/
def domainPush (domain : String) : Exchange outside where
  query := .push (ImageReference.ofRelease "r" "latest")
    ⟨registryHost domain, registryUsername, "t"⟩
    (repository (registryHost domain) "o" "r") (pushTag (.ofSeconds 0))
  answer := .ok ()

theorem runs_domainRun (hpush : (domainRun domain).1 =
      (domainRun domain).1.take 14 ++ domainPush domain :: (domainRun domain).1.drop 15) :
    Runs (deploy (some (domainContext domain)) (willingOptions .unchecked))
      ((domainRun domain).1.take 14 ++ domainPush domain :: (domainRun domain).1.drop 15)
      (domainRun domain).2 := by
  rw [← hpush]
  exact runs_follow _ _

/-- The domain `x`, with a slash at its end and with a scheme. -/
theorem domainPush_at : ∀ domain ∈ ["x", "x/", "http://x"], (domainRun domain).1 =
    (domainRun domain).1.take 14 ++ domainPush domain :: (domainRun domain).1.drop 15 := by
  rintro _ (_ | ⟨_, _ | ⟨_, _ | ⟨_, ⟨⟩⟩⟩⟩)
  · rfl
  · rfl
  · rfl

theorem head?_domainRun : ∀ domain ∈ ["x", "x/", "http://x"],
    ((domainRun domain).1.take 14).head? =
      some ⟨.listWorkspaces, .ok [⟨"w", "", ""⟩]⟩ := by
  rintro _ (_ | ⟨_, _ | ⟨_, _ | ⟨_, ⟨⟩⟩⟩⟩)
  · rfl
  · rfl
  · rfl

/-- The repository of the domain `x` is in form, and that of `x/` is another one. -/
theorem plainDomain_addresses :
    Client.baseUrl "x" = .ok Client.sample.base ∧
      Runs (deploy (some (domainContext "x")) (willingOptions .unchecked))
        ((domainRun "x").1.take 14 ++ domainPush "x" :: (domainRun "x").1.drop 15)
        (domainRun "x").2 ∧
      IsRepository (repository (registryHost "x") "o" "r") ∧
      Client.baseUrl "x/" = .ok Client.sample.base ∧
      registryHost "x/" ≠ registryHost "x" ∧
      repository (registryHost "x/") "o" "r" ≠ repository (registryHost "x") "o" "r" := by
  have hroot : Client.baseUrl (domainContext "x").domain = .ok Client.sample.base := by
    decide +kernel
  have hrun := runs_domainRun (domainPush_at "x" (by decide))
  obtain ⟨-, hform, hother⟩ := push_addresses hroot hrun
  obtain ⟨hsame, hpushes⟩ := hother 1
  have hslash : slashed (domainContext "x").domain 1 = "x/" := rfl
  rw [hslash] at hsame hpushes
  have hslashed := runs_domainRun (domainPush_at "x/" (by decide))
  have hlisted : ((domainRun "x/").1.take 14).head? = ((domainRun "x").1.take 14).head? :=
    (head?_domainRun "x/" (by decide)).trans (head?_domainRun "x" (by decide)).symm
  obtain ⟨hregistry, hrepository, -⟩ := hpushes _ _ _ _ _ _ _ hslashed hlisted
  exact ⟨hroot, hrun, (hform "o" "r" rfl (by decide) (by decide)).mpr (by decide), hsame,
    mt hregistry.mp (by decide), mt hrepository.mp (by decide)⟩

/-- With a slash at the end of the domain, the repository has an empty component, and all addresses
but the root are other ones. With a scheme, the repository has a scheme in it. -/
theorem slashedDomain_other_addresses :
    IsComponent "o" ∧ IsComponent "r" ∧
    (Client.baseUrl "x/" = Client.baseUrl "x" ∧ Client.baseUrl "x" = .ok Client.sample.base) ∧
    (Runs (deploy (some (domainContext "x")) (willingOptions .unchecked))
        ((domainRun "x").1.take 14 ++ domainPush "x" :: (domainRun "x").1.drop 15)
        (domainRun "x").2 ∧
      repository (registryHost "x") "o" "r" = "images.x/o/r" ∧
      (domainRun "x").2.map Report.dashboardUrl = .ok "https://cloud.x/w/deployments/d") ∧
    (Runs (deploy (some (domainContext "x/")) (willingOptions .unchecked))
        ((domainRun "x/").1.take 14 ++ domainPush "x/" :: (domainRun "x/").1.drop 15)
        (domainRun "x/").2 ∧
      registryHost "x/" = "images.x/" ∧
      repository (registryHost "x/") "o" "r" = "images.x//o/r" ∧
      ¬ IsRepository (repository (registryHost "x/") "o" "r") ∧
      (domainRun "x/").2.map Report.dashboardUrl = .ok "https://cloud.x//w/deployments/d") ∧
    (∃ root, Client.baseUrl "http://x" = .ok root) ∧
    Runs (deploy (some (domainContext "http://x")) (willingOptions .unchecked))
      ((domainRun "http://x").1.take 14 ++ domainPush "http://x" ::
        (domainRun "http://x").1.drop 15) (domainRun "http://x").2 ∧
    repository (registryHost "http://x") "o" "r" = "images.http://x/o/r" := by
  refine ⟨by decide, by decide, ⟨by decide +kernel, by decide +kernel⟩,
    ⟨runs_domainRun (domainPush_at _ (by decide)), by decide, rfl⟩,
    ⟨runs_domainRun (domainPush_at _ (by decide)), by decide, by decide, by decide, rfl⟩,
    ?_, runs_domainRun (domainPush_at _ (by decide)), by decide⟩
  exact ⟨⟨false, [], "x".toList, none, ["v1".toList, []], none, none⟩, by decide +kernel⟩

end AirflowDeploy.Deploy
