import AirflowDeploy.Platform.Client
import AirflowDeploy.Proofs.Dialogue.Runs
import AirflowDeploy.Proofs.Url.Roots

/-!
# Addresses of resources

What the client asks for when it is given the identifier of a workspace, a deployment or an image.
The address continues the client's own one by the segments for these texts, unless the identifier
is `.` or `..`.
-/
namespace AirflowDeploy.Client

open Text Dialogue

section Domain

variable {domain token : String} {c : Client}

theorem mem_withoutSlashes_iff {mark : Char} (h : mark ≠ '/') :
    mark ∈ withoutSlashes domain ↔ mark ∈ domain.toList := by
  rw [withoutSlashes, List.mem_reverse,
    mem_dropWhile_iff (p := (· == '/')) (beq_eq_false_iff_ne.mpr h), List.mem_reverse]

/-- The text of an address without a path, for a domain without slashes at its end. -/
def address (domain : List Char) : List Char :=
  if (afterPrefix? insecureStart domain).isSome || (afterPrefix? secureStart domain).isSome then
    domain
  else secureStart ++ "api.".toList ++ domain

theorem baseUrl_eq (domain : String) : baseUrl domain =
    (Url.readAfterScheme (afterPrefix? secureStart (address (withoutSlashes domain))).isSome
      (((address (withoutSlashes domain)).dropWhile fun c => !Url.isColon c).tail ++
        "/v1/".toList)).mapError .url := rfl

theorem mem_afterScheme_iff {mark : Char} (hmark : mark = '?' ∨ mark = '#') (domain : List Char) :
    mark ∈ ((address domain).dropWhile fun c => !Url.isColon c).tail ↔ mark ∈ domain := by
  have hinsecure : insecureStart = ['h', 't', 't', 'p', ':', '/', '/'] := rfl
  have hsecure : secureStart = ['h', 't', 't', 'p', 's', ':', '/', '/'] := rfl
  have hapi : "api.".toList = ['a', 'p', 'i', '.'] := rfl
  unfold address
  split
  · rename_i hscheme
    rcases Bool.or_eq_true_iff.mp hscheme with h | h
    · obtain ⟨rest, hrest⟩ := Option.isSome_iff_exists.mp h
      rw [eq_append_of_afterPrefix? hrest, hinsecure]
      rcases hmark with rfl | rfl <;> simp [Url.isColon]
    · obtain ⟨rest, hrest⟩ := Option.isSome_iff_exists.mp h
      rw [eq_append_of_afterPrefix? hrest, hsecure]
      rcases hmark with rfl | rfl <;> simp [Url.isColon]
  · rw [hsecure, hapi]
    rcases hmark with rfl | rfl <;> simp [Url.isColon]

/-- The client of a domain has an address that ends in a slash exactly where the domain holds
neither a question mark nor a number sign. -/
theorem isRoot_iff_of_ofDomain (h : ofDomain domain token = .ok c) :
    c.base.IsRoot ↔ '?' ∉ domain.toList ∧ '#' ∉ domain.toList := by
  rw [ofDomain, baseUrl_eq] at h
  cases hread : Url.readAfterScheme _ _ with
  | error e =>
    rw [hread] at h
    cases h
  | ok base =>
    rw [hread] at h
    cases h
    rw [Url.isRoot_iff_of_readAfterScheme hread, mem_afterScheme_iff (.inl rfl),
      mem_afterScheme_iff (.inr rfl), mem_withoutSlashes_iff (by decide),
      mem_withoutSlashes_iff (by decide)]

end Domain

variable {base : Url} {collection id id' action : String} {texts : List String}

/-- A text that no path takes for a level. -/
def IsName (text : String) : Prop := text ≠ "." ∧ text ≠ ".."

/-- The texts that remain of the path of a resource when its levels are followed. -/
def placed (collection id action : String) : List String :=
  if id = ".." then [action]
  else if id = "." then [collection, action]
  else [collection, id, action]

/-- Levels are followed, and every other text makes the segment for itself. -/
theorem resolve_resource (front : List (List Char)) (hcollection : IsName collection)
    (haction : IsName action) :
    Url.resolve front ([collection, id, action].map Url.encodeSegment) =
      front ++ (placed collection id action).map Url.encodeSegment := by
  have hkept {text : String} (h : IsName text) :
      Url.isTwoDots (Url.encodeSegment text) = false ∧
        Url.isOneDot (Url.encodeSegment text) = false := by
    simpa [← Bool.not_eq_true] using And.symm h
  have hfirst := hkept hcollection
  have hlast := hkept haction
  simp only [List.map_cons, List.map_nil, Url.resolve, hfirst.1, hfirst.2, hlast.1, hlast.2,
    Bool.false_eq_true, if_false, Url.isTwoDots_encodeSegment, Url.isOneDot_encodeSegment, placed]
  split_ifs <;> simp

theorem placed_injective (h : placed collection id action = placed collection id' action) :
    id = id' := by
  unfold placed at h
  split_ifs at h <;> simp_all

theorem continues_resource_iff (hcollection : IsName collection) (haction : IsName action)
    (hne : texts ≠ []) :
    base.Continues (resource base [collection, id, action]) texts ↔
      base.IsRoot ∧ texts = placed collection id action := by
  rw [resource, Url.continues_join_iff hne, resolve_resource _ hcollection haction]
  refine and_congr_right fun _ => ?_
  have hdecode : ((placed collection id action).map Url.encodeSegment).map Url.percentDecode =
      (placed collection id action).map fun text => Utf8.encode text.toList := by
    simp [Url.percentDecode_encodeSegment]
  constructor
  · rintro ⟨segments, hsegments, htexts⟩
    rw [← List.append_cancel_left hsegments, hdecode] at htexts
    exact (Utf8.encode_toList_injective.list_map htexts).symm
  · rintro rfl
    exact ⟨_, rfl, hdecode⟩

section Requests

variable {α : Type} {c : Client} {url : Url} {body : Option Json} {decode : Json → Option α}
  {trace : List (Exchange machine)} {request request' : Http.Request}

/-- A call asks once, where its token can be sent, and otherwise never. -/
theorem runs_call_iff {result : Except Fault α} : Runs (c.call url body decode) trace result ↔
    if Http.isHeaderText c.authorization then
      ∃ reply, trace = [⟨.web (c.request url body), reply⟩] ∧
        result = (readReply decode url reply).mapError ClientError.toFault
    else trace = [] ∧ result = .error (ClientError.request "builder error").toFault := by
  unfold Client.call
  split
  · exact runs_map_iff.trans (exists_congr fun _ => and_congr_left' runs_query_iff)
  · exact runs_done_iff

theorem url_of_runs_call {result : Except Fault α} (h : Runs (c.call url body decode) trace result)
    {reply : Option Http.Reply} (hsent : ⟨.web request, reply⟩ ∈ trace) : request.url = url := by
  have htrace := runs_call_iff.mp h
  split at htrace
  · obtain ⟨_, rfl, -⟩ := htrace
    cases List.mem_singleton.mp hsent
    rfl
  · obtain ⟨rfl, -⟩ := htrace
    cases hsent

/-- One of the calls that take an identifier sends a request at some run. -/
inductive Sends (c : Client) : (collection id action : String) → Http.Request → Prop where
  | listDeployments {id : String} {trace : List (Exchange machine)}
      {result : Except Fault (List Deployment)} {request : Http.Request}
      {reply : Option Http.Reply} (run : Runs (c.listDeployments id) trace result)
      (sent : ⟨.web request, reply⟩ ∈ trace) : Sends c "workspaces" id "deployments" request
  | createImage {creation : ImageCreation} {trace : List (Exchange machine)}
      {result : Except Fault Image} {request : Http.Request}
      {reply : Option Http.Reply} (run : Runs (c.createImage creation) trace result)
      (sent : ⟨.web request, reply⟩ ∈ trace) :
      Sends c "deployments" creation.deploymentId "images" request
  | deployImage {rollout : ImageRollout} {trace : List (Exchange machine)}
      {result : Except Fault Image} {request : Http.Request}
      {reply : Option Http.Reply} (run : Runs (c.deployImage rollout) trace result)
      (sent : ⟨.web request, reply⟩ ∈ trace) : Sends c "images" rollout.imageId "deploy" request

/-- Where the token can be sent, every identifier is. -/
theorem exists_sends (htoken : Http.isHeaderText c.authorization = true) :
    (∀ id, ∃ request, c.Sends "workspaces" id "deployments" request) ∧
    (∀ creation : ImageCreation, ∃ request,
      c.Sends "deployments" creation.deploymentId "images" request) ∧
    ∀ rollout : ImageRollout, ∃ request, c.Sends "images" rollout.imageId "deploy" request := by
  have hrun {α : Type} (url : Url) (body : Option Json) (decode : Json → Option α) :
      ∃ result, Runs (c.call url body decode) [⟨.web (c.request url body), none⟩] result := by
    refine ⟨(readReply decode url none).mapError ClientError.toFault, runs_call_iff.mpr ?_⟩
    rw [if_pos htoken]
    exact ⟨none, rfl, rfl⟩
  refine ⟨fun id => ?_, fun creation => ?_, fun rollout => ?_⟩
  · obtain ⟨result, h⟩ := hrun _ _ _
    exact ⟨_, .listDeployments h List.mem_cons_self⟩
  · obtain ⟨result, h⟩ := hrun _ _ _
    exact ⟨_, .createImage h List.mem_cons_self⟩
  · obtain ⟨result, h⟩ := hrun _ _ _
    exact ⟨_, .deployImage h List.mem_cons_self⟩

theorem Sends.url_eq (h : c.Sends collection id action request) :
    request.url = resource c.base [collection, id, action] := by
  cases h with
  | listDeployments run sent => exact url_of_runs_call run sent
  | createImage run sent => exact url_of_runs_call run sent
  | deployImage run sent => exact url_of_runs_call run sent

theorem Sends.names (h : c.Sends collection id action request) :
    IsName collection ∧ IsName action := by
  cases h <;> simp [IsName]

/-- The address of a request is the client's own one followed by the collection, the identifier
and the action exactly where the client's address ends in a slash and the identifier is neither
`.` nor `..`. The first of these leaves out its own segment, and the second one the collection as
well. Different identifiers have different addresses nevertheless. -/
theorem address_continues_iff (h : c.Sends collection id action request) :
    (c.base.Continues request.url [collection, id, action] ↔
      c.base.IsRoot ∧ id ≠ "." ∧ id ≠ "..") ∧
    (c.base.IsRoot → id = "." → c.base.Continues request.url [collection, action]) ∧
    (c.base.IsRoot → id = ".." → c.base.Continues request.url [action]) ∧
    ∀ {id' request'}, c.Sends collection id' action request' → request'.url = request.url →
      id' = id := by
  obtain ⟨hcollection, haction⟩ := h.names
  have hurl := h.url_eq
  refine ⟨?_, ?_, ?_, ?_⟩
  · rw [hurl, continues_resource_iff hcollection haction (List.cons_ne_nil _ _)]
    refine and_congr_right fun _ => ?_
    unfold placed
    split_ifs <;> simp_all
  · rintro hroot rfl
    rw [hurl, continues_resource_iff hcollection haction (List.cons_ne_nil _ _)]
    exact ⟨hroot, rfl⟩
  · rintro hroot rfl
    rw [hurl, continues_resource_iff hcollection haction (List.cons_ne_nil _ _)]
    exact ⟨hroot, rfl⟩
  · intro id' request' h' hsame
    have hpath := congrArg Url.path ((h'.url_eq.symm.trans hsame).trans hurl)
    simp only [resource, Url.join, resolve_resource _ hcollection haction] at hpath
    have htexts := List.append_cancel_left hpath
    exact placed_injective (Url.encodeSegment_injective.list_map htexts)

/-- The client of the domain `x` with the token `t`. -/
def sample : Client := ⟨⟨true, [], "api.x".toList, none, ["v1".toList, []], none, none⟩, "t"⟩

theorem ofDomain_sample : ofDomain "x" "t" = .ok sample := by decide +kernel

/-- A slash and a space in an identifier are kept within its segment. -/
theorem spaced_workspace_address :
    ∃ c request, ofDomain "x" "t" = .ok c ∧ c.Sends "workspaces" "ws 1/x" "deployments" request ∧
      request.url.render = "https://api.x/v1/workspaces/ws%201%2Fx/deployments" ∧
      c.base.Continues request.url ["workspaces", "ws 1/x", "deployments"] := by
  obtain ⟨request, hsends⟩ := (exists_sends (c := sample) (by decide)).1 "ws 1/x"
  refine ⟨sample, request, ofDomain_sample, hsends, ?_, ?_⟩
  · rw [hsends.url_eq]
    decide +kernel
  · exact (address_continues_iff hsends).1.mpr ⟨⟨rfl, rfl, rfl⟩, by decide, by decide⟩

/-- The deployments of the workspace `..` are asked for outside of the workspaces. -/
theorem upper_workspace_address :
    ∃ c request, ofDomain "x" "t" = .ok c ∧ c.Sends "workspaces" ".." "deployments" request ∧
      request.url.render = "https://api.x/v1/deployments" ∧
      ¬ c.base.Continues request.url ["workspaces", "..", "deployments"] := by
  obtain ⟨request, hsends⟩ := (exists_sends (c := sample) (by decide)).1 ".."
  refine ⟨sample, request, ofDomain_sample, hsends, ?_, fun hcontinues => ?_⟩
  · rw [hsends.url_eq]
    decide +kernel
  · rw [hsends.url_eq, continues_resource_iff hsends.names.1 hsends.names.2
      (List.cons_ne_nil _ _)] at hcontinues
    exact absurd hcontinues.2 (by decide)

end Requests

end AirflowDeploy.Client
