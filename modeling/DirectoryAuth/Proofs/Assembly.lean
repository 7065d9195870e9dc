import DirectoryAuth.Proofs.Discovery
import DirectoryAuth.Proofs.Mapping.WellFormed
import DirectoryAuth.Proofs.Session.Calls
import DirectoryAuth.Proofs.Text.Division

/-!
# Assembled servers

Later operations take for granted what assembling servers has seen to: that servers can be told
apart by their keys, that each has a URL and a base to look for users below, and that the numbers in
a request for groups are those of the names it is searched with. All of it holds of every server
that is assembled, whatever the settings are and whatever the name service answers.
-/

namespace DirectoryAuth

open Operation

variable {σ : Type} {network : Network σ} {a b : World σ} {s : Settings} {v : View}

/-! ## Runs of lists -/

/-- What each single run makes sure of its result and the events in its course, the run of a whole
list makes sure of each of its results and the part of the events that belongs to it. -/
theorem Operation.run_mapM_parts {α β : Type} {f : α → Operation σ β} {good : List Event → β → Prop}
    (each : ∀ item result before after, (f item).run network before = (.ok result, after) →
      ∃ events, after.history = before.history ++ events ∧ good events result)
    {items : List α} {results : List β}
    (ran : (items.mapM f).run network a = (.ok results, b)) :
    ∃ parts, b.history = a.history ++ parts.flatten ∧ List.Forall₂ good parts results := by
  induction items generalizing results a with
  | nil =>
    cases ran
    exact ⟨[], by simp, .nil⟩
  | cons item rest ih =>
    rw [List.mapM_cons] at ran
    obtain ⟨result, next, first, ran⟩ := run_bind_eq_ok ran
    obtain ⟨others, last, there, ran⟩ := run_bind_eq_ok ran
    cases ran
    obtain ⟨events, history, here⟩ := each _ _ _ _ first
    obtain ⟨parts, later, behind⟩ := ih there
    refine ⟨events :: parts, ?_, .cons here behind⟩
    rw [later, history, List.flatten_cons, List.append_assoc]

/-! ## URLs -/

namespace Server

/-- The URLs are the words of their setting, or, where that is blank, those that the name service
announced for the realm: one of the events is its answer. -/
inductive Located (v : View) (events : List Event) (urls : List String) : Prop
  | configured (filled : v.bare "url" ≠ "")
      (areWords : Text.AreWords (v.bare "url").toList (urls.map String.toList))
  | discovered {records : List ServiceRecord} (blank : v.bare "url" = "")
      (named : v.bare "realm" ≠ "")
      (answered : .exchange (.lookUpService (Discovery.serviceName (v.bare "realm")))
        (.ok records) ∈ events)
      (announced : Discovery.Announced records urls)

theorem discoverUrls_eq_ok {urls : List String}
    (ran : (discoverUrls v).run network a = (.ok urls, b)) :
    urls ≠ [] ∧ v.bare "realm" ≠ "" ∧ ∃ records,
      World.Happened (.exchange (.lookUpService (Discovery.serviceName (v.bare "realm")))
        (.ok records)) a b ∧ Discovery.Announced records urls := by
  rw [discoverUrls] at ran
  cases named : v.text? "realm" with
  | none =>
    rw [named] at ran
    cases ran
  | some realm =>
    obtain ⟨rfl, filled⟩ := View.text?_eq_some_iff.mp named
    rw [named] at ran
    obtain ⟨found, next, discovered, ran⟩ := run_bind_eq_ok ran
    by_cases nothing : found.isEmpty = true
    · rw [if_pos nothing] at ran
      cases ran
    · rw [if_neg nothing] at ran
      cases ran
      have some : urls ≠ [] := by simpa using nothing
      obtain ⟨records, answered, announced⟩ := Discovery.discover_eq_ok some discovered
      exact ⟨some, filled, records, answered.upTo (List.prefix_append _ _), announced⟩

theorem findUrls_located {urls : List String} {events : List Event}
    (ran : (findUrls v).run network a = (.ok urls, b))
    (happened : ∀ event, World.Happened event a b → event ∈ events) :
    urls ≠ [] ∧ Located v events urls := by
  rw [findUrls] at ran
  cases url : v.text? "url" with
  | some text =>
    rw [url] at ran
    cases ran
    obtain ⟨rfl, filled⟩ := View.text?_eq_some_iff.mp url
    have firm := Settings.isFirm_bare v.settings (v.name "url")
    exact ⟨Text.words_ne_nil firm filled, .configured filled (Text.areWords_words _)⟩
  | none =>
    rw [url] at ran
    obtain ⟨some, named, records, answered, announced⟩ := discoverUrls_eq_ok ran
    have blank := View.text?_eq_none_iff.mp url
    exact ⟨some, .discovered blank named (happened _ answered) announced⟩

/-! ## Servers -/

def view (s : Settings) (server : Server) : View := ⟨s, server.root⟩

/-- The server has URLs and a base for users, and it has a mapping for groups where one is
configured. All of that comes from its settings and from the events while it was assembled. -/
structure WellFormed (s : Settings) (events : List Event) (server : Server) : Prop where
  reachable : server.urls ≠ []
  located : Located (server.view s) events server.urls
  based : server.users.base ≠ ""
  grouped : server.groups.isSome = true ↔ (server.view s).bare "group.baseDn" ≠ "" ∨
    (server.view s).bare "group.memberOfAttribute" ≠ ""
  mapping : ∀ m, server.groups = some m → m.WellFormed (server.view s)

theorem usersOf_eq_ok {users : UserMapping}
    (ran : (usersOf v).run network a = (.ok users, b)) : UserMapping.ofView v = .ok users := by
  obtain ⟨found, _, read, ran⟩ := run_bind_eq_ok ran
  obtain ⟨_, _, _, ran⟩ := run_bind_eq_ok ran
  cases ran
  exact reading_eq_ok read

theorem groupsOf_eq_ok {groups : Option GroupMapping}
    (ran : (groupsOf v).run network a = (.ok groups, b)) : GroupMapping.ofView v = .ok groups := by
  obtain ⟨_, _, _, ran⟩ := run_bind_eq_ok ran
  exact reading_eq_ok ran

/-- A server that is assembled is made of parts that were found one after another. -/
theorem assemble_eq_ok {key : String} {server : Server}
    (ran : (assemble s key).run network a = (.ok server, b)) :
    ∃ urls users groups c, (findUrls ⟨s, rootOf key⟩).run network a = (.ok urls, c) ∧
      c.history <+: b.history ∧ UserMapping.ofView ⟨s, rootOf key⟩ = .ok users ∧
      GroupMapping.ofView ⟨s, rootOf key⟩ = .ok groups ∧
      ofView ⟨s, rootOf key⟩ key urls users groups = .ok server := by
  obtain ⟨urls, c, found, ran⟩ := run_bind_eq_ok ran
  obtain ⟨users, d, based, ran⟩ := run_bind_eq_ok ran
  obtain ⟨groups, e, grouped, ran⟩ := run_bind_eq_ok ran
  obtain ⟨made, f, read, ran⟩ := run_bind_eq_ok ran
  have first := (usersOf_callsOnly _).grows based
  have second := (groupsOf_callsOnly _).grows grouped
  have same : e = f := congrArg Prod.snd read
  cases ran
  refine ⟨urls, users, groups, c, found, ?_, usersOf_eq_ok based, groupsOf_eq_ok grouped,
    reading_eq_ok read⟩
  rw [← same]
  exact (first.trans second).trans (List.prefix_append _ _)

theorem assemble_wellFormed {key : String} {server : Server}
    (ran : (assemble s key).run network a = (.ok server, b)) :
    ∃ events, b.history = a.history ++ events ∧ server.WellFormed s events := by
  obtain ⟨events, history⟩ := (assemble_callsOnly s key).grows ran
  obtain ⟨urls, users, groups, c, found, behind, based, grouped, made⟩ := assemble_eq_ok ran
  have happened : ∀ event, World.Happened event a c → event ∈ events := by
    intro event early
    obtain ⟨others, later, member⟩ := early.upTo behind
    rw [← history, List.append_cancel_left_eq] at later
    rwa [later]
  obtain ⟨some, located⟩ := findUrls_located found happened
  obtain ⟨rfl, rfl, rfl, rfl⟩ := ofView_parts made
  refine ⟨events, history.symm, ?_⟩
  constructor
  · exact some
  · exact located
  · exact UserMapping.ofView_base based
  · exact GroupMapping.ofView_isSome_iff grouped
  · intro m same
    rw [same] at grouped
    exact GroupMapping.ofView_wellFormed grouped

/-! ## Keys -/

/-- The keys that the settings list, in order and without the blanks around them. Without a list
there is one server, which has a key of its own. -/
inductive Listed (s : Settings) (keys : List String) : Prop
  | single (blank : s.bare "ldap.servers" = "") (only : keys = ["default"])
  | several {parts : List (List Char)} (filled : s.bare "ldap.servers" ≠ "")
      (areParts : Text.AreParts ',' (s.bare "ldap.servers").toList parts)
      (cores : List.Forall₂ Text.IsCore parts (keys.map String.toList))

structure Keyed (s : Settings) (keys : List String) : Prop where
  listed : Listed s keys
  filled : ∀ key ∈ keys, key ≠ ""
  firm : ∀ key ∈ keys, Text.IsFirm key.toList
  nodup : keys.Nodup

theorem repeated?_eq_none {keys : List String} (once : repeated? keys = none) : keys.Nodup := by
  rw [repeated?, Option.map_eq_none_iff, List.find?_eq_none] at once
  rw [List.Nodup, List.pairwise_iff_getElem]
  intro i j first second before same
  apply once (keys[j], j)
  · rw [List.mk_mem_zipIdx_iff_getElem?]
    exact List.getElem?_eq_getElem second
  · rw [List.contains_iff_mem, List.mem_take_iff_getElem]
    exact ⟨i, by omega, same⟩

/-- What is read as a list of keys are the parts of a text without the blanks around them. -/
theorem cores_of_split (text : String) : ∃ parts, Text.AreParts ',' text.toList parts ∧
    List.Forall₂ Text.IsCore parts (((text.splitOn ",").map Text.trim).map String.toList) := by
  have comma : "," = String.ofList [','] := by decide
  have areParts := Text.areParts_splitOn ',' text
  rw [← comma] at areParts
  refine ⟨_, areParts, ?_⟩
  rw [List.forall₂_map_left_iff, List.forall₂_map_right_iff, List.forall₂_map_right_iff,
    List.forall₂_same]
  intro part _
  exact Text.isCore_trim part

theorem keys_keyed {listed : List String} (named : keys s = .ok listed) : Keyed s listed := by
  rw [keys] at named
  cases servers : (View.mk s settingsRoot).text? "servers" with
  | none =>
    rw [servers] at named
    cases named
    exact ⟨.single (View.text?_eq_none_iff.mp servers) rfl, by decide, by decide, by decide⟩
  | some text =>
    obtain ⟨rfl, filled⟩ := View.text?_eq_some_iff.mp servers
    obtain ⟨parts, areParts, cores⟩ := cores_of_split ((View.mk s settingsRoot).bare "servers")
    rw [servers] at named
    dsimp only at named
    split at named
    · cases named
    rename_i some
    split at named
    · cases named
    rename_i once
    cases named
    refine ⟨.several filled areParts cores, ?_, ?_, repeated?_eq_none once⟩
    · intro key member blank
      apply some
      rw [List.any_eq_true]
      exact ⟨key, member, by simp [blank]⟩
    · intro key member
      obtain ⟨part, -, rfl⟩ := List.mem_map.mp member
      exact (Text.isCore_trim part).firm

/-- Whatever the settings are and however the network answers, the servers that come of it are well
formed. Their keys are those that the settings list, without the blanks around them, or the one key
of a server that needs no list; none is blank, and none is there twice. What happened falls into
parts, one for each server in its turn. With what happened in its part and its own settings, each
server has URLs, a base for users and, just where either style is configured, a mapping for groups
that serves the styles that are; the names in such a mapping differ in more than letter case, and
the numbers in its request are those of the names. -/
theorem servers_wellFormed {servers : List Server}
    (ran : (Roster.ofSettings s).servers.run network a = (.ok servers, b)) :
    Keyed s (servers.map Server.key) ∧
      ∃ parts, b.history = a.history ++ parts.flatten ∧
        List.Forall₂ (WellFormed s) parts servers := by
  change (assembleAll s).run network a = (.ok servers, b) at ran
  refine ⟨keys_keyed (assembleAll_keys ran), ?_⟩
  rw [assembleAll_of_keys (assembleAll_keys ran)] at ran
  exact run_mapM_parts (fun _ _ _ _ => assemble_wellFormed) ran

/-! ## A rehearsal -/

theorem run_advise (network : Network σ) (a : World σ) (component : Component)
    (advice : Option String) : ∃ b, (advise component advice).run network a = (.ok (), b) := by
  cases advice with
  | some text => exact ⟨_, rfl⟩
  | none => exact ⟨_, rfl⟩

/-- A server is assembled of its parts. -/
theorem run_assemble {key : String} {urls : List String} {users : UserMapping}
    {groups : Option GroupMapping} {server : Server}
    (found : (findUrls ⟨s, rootOf key⟩).run network a = (.ok urls, b))
    (based : UserMapping.ofView ⟨s, rootOf key⟩ = .ok users)
    (grouped : GroupMapping.ofView ⟨s, rootOf key⟩ = .ok groups)
    (made : ofView ⟨s, rootOf key⟩ key urls users groups = .ok server) :
    ∃ c, (assemble s key).run network a = (.ok server, c) := by
  obtain ⟨c, first⟩ := run_advise network b .users (UserMapping.advice? ⟨s, rootOf key⟩)
  obtain ⟨d, second⟩ := run_advise network c .groups (GroupMapping.advice? ⟨s, rootOf key⟩)
  have there : (usersOf ⟨s, rootOf key⟩).run network b = (.ok users, c) := by
    rw [usersOf, based]
    exact (run_bind_of_ok first).trans rfl
  have known : (groupsOf ⟨s, rootOf key⟩).run network c = (.ok groups, d) := by
    rw [groupsOf, grouped]
    exact run_bind_of_ok second
  rw [assemble, run_bind_of_ok found, run_bind_of_ok there, run_bind_of_ok known, made]
  exact ⟨_, rfl⟩

end Server

namespace Rehearsal

open Server

def listingTwo : Settings :=
  ⟨[("ldap.servers", .text " b,a"), ("ldap.b.realm", .text "x.y"),
    ("ldap.b.user.baseDn", .text "dc=x"), ("ldap.b.group.memberOfAttribute", .text "memberOf"),
    ("ldap.a.url", .text "\tldap://h  ldaps://i"), ("ldap.a.user.baseDn", .text "dc=x"),
    ("ldap.a.group.baseDn", .text "dc=g"),
    ("ldap.a.group.request", .text "(|(m=\x7bdn\x7d)(u=\x7bUID\x7d)(v=\x7buid\x7d))")]⟩

def announcing : Script :=
  { Script.empty with announcements := [("_ldap._tcp.x.y", .ok [⟨0, 0, 389, "k."⟩])] }

theorem keys_listingTwo : Server.keys listingTwo = .ok ["b", "a"] := by
  have listed : (View.mk listingTwo settingsRoot).text? "servers" = some "b,a" := by
    decide +kernel
  have split : "b,a".splitOn "," = ["b", "a"] := by cbv
  rw [keys, listed]
  dsimp only
  rw [split]
  rfl

theorem findUrls_announced : ∃ b,
    (findUrls ⟨listingTwo, rootOf "b"⟩).run Script.network (.start announcing) =
      (.ok ["ldap://k:389"], b) := by
  have url : (View.mk listingTwo (rootOf "b")).text? "url" = none := by decide +kernel
  have realm : (View.mk listingTwo (rootOf "b")).text? "realm" = some "x.y" := by decide +kernel
  have name : Discovery.serviceName "x.y" = "_ldap._tcp.x.y" := by decide +kernel
  have answered : Discovery.answer Script.network (.start announcing) "x.y" =
      .ok [⟨0, 0, 389, "k."⟩] := by
    rw [Discovery.answer, name]
    rfl
  have urls : Discovery.urls [⟨0, 0, 389, "k."⟩] = ["ldap://k:389"] := by cbv
  obtain ⟨message, discovered⟩ := Discovery.run_discover_of_records answered
  rw [urls] at discovered
  rw [findUrls, url]
  dsimp only
  rw [discoverUrls, realm]
  dsimp only
  rw [run_bind_of_ok discovered]
  exact ⟨_, rfl⟩

theorem findUrls_configured (a : World σ) :
    (findUrls ⟨listingTwo, rootOf "a"⟩).run network a = (.ok ["ldap://h", "ldaps://i"], a) := by
  have text : (View.mk listingTwo (rootOf "a")).text? "url" = some "ldap://h  ldaps://i" := by
    decide +kernel
  have words : Text.words "ldap://h  ldaps://i" = ["ldap://h", "ldaps://i"] := by decide +kernel
  rw [findUrls, text]
  dsimp only
  rw [words]
  rfl

/-- The rest of what the two servers need is there. -/
theorem listingTwo_complete {key : String} (member : key ∈ ["b", "a"]) (urls : List String) :
    ∃ users groups server, UserMapping.ofView ⟨listingTwo, rootOf key⟩ = .ok users ∧
      GroupMapping.ofView ⟨listingTwo, rootOf key⟩ = .ok groups ∧
      ofView ⟨listingTwo, rootOf key⟩ key urls users groups = .ok server := by
  rcases List.mem_pair.mp member with rfl | rfl
  · exact ⟨_, _, _, rfl, rfl, rfl⟩
  · exact ⟨_, _, _, rfl, rfl, rfl⟩

end Rehearsal

namespace Server

open Rehearsal

/-- Two servers, one at the URL that its realm announces. -/
theorem servers_wellFormed_announced : ∃ servers b,
    (Roster.ofSettings listingTwo).servers.run Script.network (.start announcing) =
      (.ok servers, b) ∧
    servers.map Server.key = ["b", "a"] ∧
    servers.map Server.urls = [["ldap://k:389"], ["ldap://h", "ldaps://i"]] ∧
    Keyed listingTwo ["b", "a"] ∧
    ∃ parts, b.history = parts.flatten ∧
      List.Forall₂ (WellFormed listingTwo) parts servers := by
  obtain ⟨b, announced⟩ := findUrls_announced
  obtain ⟨users, groups, first, based, grouped, made⟩ :=
    @listingTwo_complete "b" (by decide) ["ldap://k:389"]
  obtain ⟨c, ran⟩ := run_assemble announced based grouped made
  obtain ⟨users', groups', second, based', grouped', made'⟩ :=
    @listingTwo_complete "a" (by decide) ["ldap://h", "ldaps://i"]
  obtain ⟨d, ran'⟩ := run_assemble (findUrls_configured c) based' grouped' made'
  have whole : (Roster.ofSettings listingTwo).servers.run Script.network (.start announcing) =
      (.ok [first, second], d) := by
    change (assembleAll listingTwo).run _ _ = _
    rw [assembleAll_of_keys keys_listingTwo, List.mapM_cons, run_bind_of_ok ran, List.mapM_cons,
      List.mapM_nil, bind_assoc, run_bind_of_ok ran']
    rfl
  obtain ⟨keyed, parts, history, formed⟩ := servers_wellFormed whole
  obtain ⟨key, url, -⟩ := ofView_parts made
  obtain ⟨key', url', -⟩ := ofView_parts made'
  have keys : [first, second].map Server.key = ["b", "a"] := by
    rw [List.map_cons, List.map_singleton, key, key']
  have urls : [first, second].map Server.urls = [["ldap://k:389"], ["ldap://h", "ldaps://i"]] := by
    rw [List.map_cons, List.map_singleton, url, url']
  rw [keys] at keyed
  exact ⟨_, d, whole, keys, urls, keyed, parts, history, formed⟩

end Server

end DirectoryAuth
