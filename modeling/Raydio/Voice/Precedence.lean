/-
# The precedence of permissions

Discord decides a permission by the overwrites of a channel, from the narrowest to the
widest: the one about the member itself, those about its roles together, the one about
everyone; and by the roles if none of them speaks. An overwrite that allows wins over
one of the same width that denies. Owners and administrators may do everything.

`permissions` computes the same by masks laid over each other from the widest to the
narrowest. `Granted` states the rule for one bit, and speaks of overwrites and roles as
sets.
-/

import Raydio.Foundation.Masks
import Raydio.Voice.Guild

namespace Raydio.Voice

open Raydio.Foundation

namespace PermissionOverwrite

/-- Whom or what an overwrite is about. -/
def key (self : PermissionOverwrite) : OverwriteType × ℕ := (self.kind, self.id)

/-- The overwrite is about the member itself. -/
def AboutMember (user : ℕ) (self : PermissionOverwrite) : Prop :=
  self.kind = .member ∧ self.id = user

/-- The overwrite is about one of the member's roles. -/
def AboutRoles (memberRoles : List ℕ) (self : PermissionOverwrite) : Prop :=
  self.kind = .role ∧ self.id ∈ memberRoles

/-- The overwrite is about everyone, whose role has the id of the guild. -/
def AboutEveryone (guild : ℕ) (self : PermissionOverwrite) : Prop :=
  self.kind = .role ∧ self.id = guild

end PermissionOverwrite

open PermissionOverwrite

/-- No two overwrites are about the same. -/
def Unambiguous (overwrites : List PermissionOverwrite) : Prop :=
  (overwrites.map PermissionOverwrite.key).Nodup

/-- An overwrite of the kind allows the bit. -/
def Allows (overwrites : List PermissionOverwrite) (about : PermissionOverwrite → Prop)
    (bit : ℕ) : Prop :=
  ∃ overwrite ∈ overwrites, about overwrite ∧ overwrite.allow.getLsbD bit = true

/-- An overwrite of the kind denies the bit. -/
def Denies (overwrites : List PermissionOverwrite) (about : PermissionOverwrite → Prop)
    (bit : ℕ) : Prop :=
  ∃ overwrite ∈ overwrites, about overwrite ∧ overwrite.deny.getLsbD bit = true

/-- The role of everyone and the member's roles together have the bit; a role that is
not known has none. -/
def RolesGrant (guild : ℕ) (memberRoles : List ℕ) (roles : Std.TreeMap ℕ Permissions)
    (bit : ℕ) : Prop :=
  ∃ role ∈ guild :: memberRoles, ∃ value, roles[role]? = some value ∧ value.getLsbD bit = true

/-- The member may do everything: it owns the guild, or its roles together have the
bit of administrators. -/
def Unrestricted (guild user owner : ℕ) (memberRoles : List ℕ)
    (roles : Std.TreeMap ℕ Permissions) : Prop :=
  user = owner ∨ RolesGrant guild memberRoles roles 3

/-- The rule for one bit. -/
def Granted (guild user : ℕ) (memberRoles : List ℕ) (roles : Std.TreeMap ℕ Permissions)
    (overwrites : List PermissionOverwrite) (bit : ℕ) : Prop :=
  Allows overwrites (AboutMember user) bit ∨
    ¬ Denies overwrites (AboutMember user) bit ∧
      (Allows overwrites (AboutRoles memberRoles) bit ∨
        ¬ Denies overwrites (AboutRoles memberRoles) bit ∧
          (Allows overwrites (AboutEveryone guild) bit ∨
            ¬ Denies overwrites (AboutEveryone guild) bit ∧
              RolesGrant guild memberRoles roles bit))

/-- A role or an overwrite has the bit. -/
def Mentioned (roles : Std.TreeMap ℕ Permissions) (overwrites : List PermissionOverwrite)
    (bit : ℕ) : Prop :=
  (∃ role : ℕ, ∃ value, roles[role]? = some value ∧ value.getLsbD bit = true) ∨
    Allows overwrites (fun _ => True) bit

variable {all : Permissions} {guild user owner : ℕ} {memberRoles : List ℕ}
  {roles : Std.TreeMap ℕ Permissions} {overwrites : List PermissionOverwrite} {bit : ℕ}

/-! ## The union of the roles -/

/-- The union of the role of everyone and the member's roles. -/
def rolesUnion (guild : ℕ) (memberRoles : List ℕ) (roles : Std.TreeMap ℕ Permissions) :
    Permissions :=
  memberRoles.foldl (fun value role => value ||| (roles[role]?).getD 0) ((roles[guild]?).getD 0)

theorem getLsbD_getD (value : Option Permissions) (bit : ℕ) :
    (value.getD 0).getLsbD bit = true ↔ ∃ known, value = some known ∧ known.getLsbD bit = true := by
  cases value <;> simp

theorem getLsbD_rolesUnion (guild : ℕ) (memberRoles : List ℕ)
    (roles : Std.TreeMap ℕ Permissions) (bit : ℕ) :
    (rolesUnion guild memberRoles roles).getLsbD bit = true ↔
      RolesGrant guild memberRoles roles bit := by
  rw [rolesUnion, Masks.getLsbD_foldl_or, RolesGrant]
  simp only [getLsbD_getD, List.mem_cons, exists_eq_or_imp]

/-! ## One layer -/

/-- The overwrite about one id, laid over the permissions. -/
def overlayOne (all : Permissions) (overwrites : List PermissionOverwrite)
    (kind : OverwriteType) (id : ℕ) (value : Permissions) : Permissions :=
  match overwrites.find? fun o => o.kind = kind && o.id = id with
  | some overwrite => value &&& (all &&& ~~~overwrite.deny) ||| overwrite.allow
  | none => value

/-- The overwrites about the member's roles, laid over the permissions together. -/
def overlayRoles (all : Permissions) (overwrites : List PermissionOverwrite)
    (memberRoles : List ℕ) (value : Permissions) : Permissions :=
  let mine := overwrites.filter fun o => o.kind = .role && memberRoles.contains o.id
  value &&& (all &&& ~~~mine.foldl (fun deny overwrite => deny ||| overwrite.deny) 0) |||
    mine.foldl (fun allow overwrite => allow ||| overwrite.allow) 0

/-- The computation as its three layers. -/
theorem permissions_eq (all : Permissions) (guild user owner : ℕ) (memberRoles : List ℕ)
    (roles : Std.TreeMap ℕ Permissions) (channel : ChannelAccess) :
    permissions all guild user owner memberRoles roles channel =
      if user = owner || (rolesUnion guild memberRoles roles).contains .administrator then all
      else overlayOne all channel.permissionOverwrites .member user
        (overlayRoles all channel.permissionOverwrites memberRoles
          (overlayOne all channel.permissionOverwrites .role guild
            (rolesUnion guild memberRoles roles))) :=
  rfl

theorem Unambiguous.unique (h : Unambiguous overwrites) (kind : OverwriteType) (id : ℕ) :
    ∀ x ∈ overwrites, ∀ y ∈ overwrites, (x.kind = kind && x.id = id) = true →
      (y.kind = kind && y.id = id) = true → x = y := by
  intro x hx y hy hkindx hkindy
  simp only [Bool.and_eq_true, decide_eq_true_eq] at hkindx hkindy
  apply List.inj_on_of_nodup_map h hx hy
  rw [key, key, hkindx.1, hkindx.2, hkindy.1, hkindy.2]

/-- What is said by the only overwrite about an id, if there is one. -/
theorem find?_about (h : Unambiguous overwrites) (kind : OverwriteType) (id : ℕ)
    (speaks : PermissionOverwrite → Prop) :
    (∃ overwrite ∈ overwrites, (overwrite.kind = kind ∧ overwrite.id = id) ∧ speaks overwrite) ↔
      ∃ overwrite, (overwrites.find? fun o => o.kind = kind && o.id = id) = some overwrite ∧
        speaks overwrite := by
  simp only [Masks.find?_eq_some_iff_of_unique (h.unique kind id), Bool.and_eq_true,
    decide_eq_true_eq, and_assoc]

/-- A bit below the only overwrite about an id. -/
theorem getLsbD_overlayOne (h : Unambiguous overwrites) (kind : OverwriteType) (id : ℕ)
    (value : Permissions) (hbit : all.getLsbD bit = true ∨ ¬ value.getLsbD bit = true) :
    (overlayOne all overwrites kind id value).getLsbD bit = true ↔
      Allows overwrites (fun o => o.kind = kind ∧ o.id = id) bit ∨
        ¬ Denies overwrites (fun o => o.kind = kind ∧ o.id = id) bit ∧
          value.getLsbD bit = true := by
  rw [overlayOne, Allows, Denies, find?_about h, find?_about h]
  cases overwrites.find? fun o => o.kind = kind && o.id = id with
  | none => simp
  | some overwrite =>
      simp only [Masks.getLsbD_overlay overwrite.deny overwrite.allow hbit, Option.some.injEq,
        exists_eq_left']

theorem getLsbD_overlayRoles (overwrites : List PermissionOverwrite) (memberRoles : List ℕ)
    (value : Permissions) (hbit : all.getLsbD bit = true ∨ ¬ value.getLsbD bit = true) :
    (overlayRoles all overwrites memberRoles value).getLsbD bit = true ↔
      Allows overwrites (AboutRoles memberRoles) bit ∨
        ¬ Denies overwrites (AboutRoles memberRoles) bit ∧ value.getLsbD bit = true := by
  have hmine (speaks : PermissionOverwrite → Prop) :
      (∃ overwrite ∈ overwrites.filter fun o => o.kind = .role && memberRoles.contains o.id,
        speaks overwrite) ↔
      ∃ overwrite ∈ overwrites, AboutRoles memberRoles overwrite ∧ speaks overwrite := by
    simp only [List.mem_filter, Bool.and_eq_true, decide_eq_true_eq, List.contains_iff_mem,
      and_assoc, AboutRoles]
  rw [overlayRoles, Masks.getLsbD_overlay _ _ hbit, Masks.getLsbD_foldl_or,
    Masks.getLsbD_foldl_or, hmine, hmine, Allows, Denies]
  simp only [BitVec.ofNat_eq_ofNat, BitVec.getLsbD_zero, Bool.false_eq_true, false_or]

/-! ## The rule -/

theorem contains_administrator (value : Permissions) :
    value.contains .administrator = true ↔ value.getLsbD 3 = true :=
  Masks.contains_bit value (by decide)

/-- A bit that a layer adds to is one that an overwrite mentions. -/
theorem not_allows_of_not_mentioned (h : ¬ Mentioned roles overwrites bit)
    (about : PermissionOverwrite → Prop) : ¬ Allows overwrites about bit := by
  rintro ⟨overwrite, hmem, -, hallow⟩
  exact h (Or.inr ⟨overwrite, hmem, trivial, hallow⟩)

theorem not_rolesGrant_of_not_mentioned (h : ¬ Mentioned roles overwrites bit) (guild : ℕ)
    (memberRoles : List ℕ) : ¬ RolesGrant guild memberRoles roles bit := by
  rintro ⟨role, -, value, hrole, hbit⟩
  exact h (Or.inl ⟨role, value, hrole, hbit⟩)

theorem permissions_of_unrestricted (channel : ChannelAccess)
    (h : Unrestricted guild user owner memberRoles roles) :
    permissions all guild user owner memberRoles roles channel = all := by
  rw [permissions_eq, if_pos]
  rw [Bool.or_eq_true, decide_eq_true_eq, contains_administrator, getLsbD_rolesUnion]
  exact h

/-- A permission is granted as the rule demands. -/
theorem getLsbD_permissions {channel : ChannelAccess}
    (hunambiguous : Unambiguous channel.permissionOverwrites)
    (h : ¬ Unrestricted guild user owner memberRoles roles)
    (hbit : all.getLsbD bit = true ∨ ¬ Mentioned roles channel.permissionOverwrites bit) :
    (permissions all guild user owner memberRoles roles channel).getLsbD bit = true ↔
      Granted guild user memberRoles roles channel.permissionOverwrites bit := by
  rw [permissions_eq, if_neg]
  · have hunion := getLsbD_rolesUnion guild memberRoles roles bit
    -- A bit that nothing mentions is missing below every layer.
    have hbase : all.getLsbD bit = true ∨
        ¬ (rolesUnion guild memberRoles roles).getLsbD bit = true := by
      rw [hunion]
      exact hbit.imp_right fun hmentioned =>
        not_rolesGrant_of_not_mentioned hmentioned guild memberRoles
    have heveryone := getLsbD_overlayOne hunambiguous .role guild _ hbase
    rw [hunion] at heveryone
    have hmissing (hmentioned : ¬ Mentioned roles channel.permissionOverwrites bit) :
        ¬ (overlayOne all channel.permissionOverwrites .role guild
          (rolesUnion guild memberRoles roles)).getLsbD bit = true := by
      rw [heveryone, not_or, not_and_or]
      exact ⟨not_allows_of_not_mentioned hmentioned _,
        Or.inr (not_rolesGrant_of_not_mentioned hmentioned guild memberRoles)⟩
    have hmine := getLsbD_overlayRoles channel.permissionOverwrites memberRoles _
      (hbit.imp_right hmissing)
    have habove : all.getLsbD bit = true ∨
        ¬ (overlayRoles all channel.permissionOverwrites memberRoles
          (overlayOne all channel.permissionOverwrites .role guild
            (rolesUnion guild memberRoles roles))).getLsbD bit = true := by
      refine hbit.imp_right fun hmentioned => ?_
      rw [hmine, not_or, not_and_or]
      exact ⟨not_allows_of_not_mentioned hmentioned _, Or.inr (hmissing hmentioned)⟩
    rw [getLsbD_overlayOne hunambiguous .member user _ habove, hmine, heveryone]
    rfl
  · rw [Bool.or_eq_true, decide_eq_true_eq, contains_administrator, getLsbD_rolesUnion]
    exact h

/-! ## What does not matter -/

theorem rolesUnion_perm {others : List ℕ} (h : memberRoles.Perm others) :
    rolesUnion guild memberRoles roles = rolesUnion guild others roles :=
  Masks.foldl_or_perm _ _ h

theorem overlayOne_perm {others : List PermissionOverwrite} (h : Unambiguous overwrites)
    (hperm : overwrites.Perm others) (kind : OverwriteType) (id : ℕ) (value : Permissions) :
    overlayOne all overwrites kind id value = overlayOne all others kind id value := by
  rw [overlayOne, overlayOne, Masks.find?_perm_of_unique hperm (h.unique kind id)]

theorem overlayRoles_perm {others : List PermissionOverwrite} {otherRoles : List ℕ}
    (hperm : overwrites.Perm others) (hroles : memberRoles.Perm otherRoles)
    (value : Permissions) :
    overlayRoles all overwrites memberRoles value = overlayRoles all others otherRoles value := by
  have hmine : (overwrites.filter fun o => o.kind = .role && memberRoles.contains o.id).Perm
      (others.filter fun o => o.kind = .role && otherRoles.contains o.id) := by
    simp only [hroles.contains_eq]
    exact hperm.filter _
  rw [overlayRoles, overlayRoles, Masks.foldl_or_perm PermissionOverwrite.deny 0 hmine,
    Masks.foldl_or_perm PermissionOverwrite.allow 0 hmine]

/-- The order of the member's roles and of the overwrites is no matter. -/
theorem permissions_perm {channel other : ChannelAccess} {otherRoles : List ℕ}
    (h : Unambiguous channel.permissionOverwrites) (hroles : memberRoles.Perm otherRoles)
    (hperm : channel.permissionOverwrites.Perm other.permissionOverwrites) :
    permissions all guild user owner memberRoles roles channel =
      permissions all guild user owner otherRoles roles other := by
  rw [permissions_eq, permissions_eq, rolesUnion_perm hroles, overlayOne_perm h hperm,
    overlayOne_perm h hperm, overlayRoles_perm hperm hroles]

/-- A role that is not known counts like one without permissions. -/
theorem permissions_insert_unknown {role : ℕ} (h : roles[role]? = none)
    (channel : ChannelAccess) :
    permissions all guild user owner memberRoles (roles.insert role 0) channel =
      permissions all guild user owner memberRoles roles channel := by
  have hvalue (other : ℕ) : ((roles.insert role 0)[other]?).getD 0 = (roles[other]?).getD 0 := by
    rw [Std.TreeMap.getElem?_insert]
    split
    · rename_i hsame
      rw [← Std.LawfulEqCmp.eq_of_compare hsame, h]
      rfl
    · rfl
  have hunion : rolesUnion guild memberRoles (roles.insert role 0) =
      rolesUnion guild memberRoles roles := by
    simp only [rolesUnion, hvalue]
  rw [permissions_eq, permissions_eq, hunion]

/-- A role that is not known and that no overwrite is about may be left out. -/
theorem permissions_cons_unknown {role : ℕ} (h : roles[role]? = none) {channel : ChannelAccess}
    (hnone : ¬ ∃ overwrite ∈ channel.permissionOverwrites, AboutRoles [role] overwrite) :
    permissions all guild user owner (role :: memberRoles) roles channel =
      permissions all guild user owner memberRoles roles channel := by
  have hunion : rolesUnion guild (role :: memberRoles) roles =
      rolesUnion guild memberRoles roles := by
    rw [rolesUnion, List.foldl_cons, h, Option.getD_none]
    simp [rolesUnion]
  have hmine : (channel.permissionOverwrites.filter fun o =>
      o.kind = .role && (role :: memberRoles).contains o.id) =
      channel.permissionOverwrites.filter fun o =>
        o.kind = .role && memberRoles.contains o.id := by
    apply List.filter_congr
    intro overwrite hmem
    by_cases hkind : overwrite.kind = .role
    · have hother : overwrite.id ≠ role := fun hsame =>
        hnone ⟨overwrite, hmem, hkind, by simp [hsame]⟩
      simp [hkind, hother]
    · simp [hkind]
  simp only [permissions_eq, hunion, overlayRoles, hmine]

/-- Owners and administrators have all permissions, and otherwise a permission is granted
as the rule demands, bit by bit. The order of roles and overwrites is no matter, and a
role that is not known counts like one without permissions: it may be left out unless an
overwrite is about it. -/
theorem permissions_precedence (all : Permissions) (guild user owner : ℕ)
    (memberRoles : List ℕ) (roles : Std.TreeMap ℕ Permissions) {channel : ChannelAccess}
    (h : Unambiguous channel.permissionOverwrites) :
    (Unrestricted guild user owner memberRoles roles →
      permissions all guild user owner memberRoles roles channel = all) ∧
    (¬ Unrestricted guild user owner memberRoles roles → ∀ bit,
      all.getLsbD bit = true ∨ ¬ Mentioned roles channel.permissionOverwrites bit →
        ((permissions all guild user owner memberRoles roles channel).getLsbD bit = true ↔
          Granted guild user memberRoles roles channel.permissionOverwrites bit)) ∧
    (∀ otherRoles other, memberRoles.Perm otherRoles →
      channel.permissionOverwrites.Perm other.permissionOverwrites →
        permissions all guild user owner memberRoles roles channel =
          permissions all guild user owner otherRoles roles other) ∧
    ∀ role, roles[role]? = none →
      permissions all guild user owner memberRoles (roles.insert role 0) channel =
        permissions all guild user owner memberRoles roles channel ∧
      ((¬ ∃ overwrite ∈ channel.permissionOverwrites, AboutRoles [role] overwrite) →
        permissions all guild user owner (role :: memberRoles) roles channel =
          permissions all guild user owner memberRoles roles channel) := by
  refine ⟨permissions_of_unrestricted channel, ?_, ?_, ?_⟩
  · intro hrestricted bit hbit
    exact getLsbD_permissions h hrestricted hbit
  · intro otherRoles other hroles hperm
    exact permissions_perm h hroles hperm
  · intro role hrole
    exact ⟨permissions_insert_unknown hrole channel, permissions_cons_unknown hrole⟩

/-- A channel that is closed to everyone, and open to the role 2. -/
def privateChannel : ChannelAccess :=
  ⟨.guildVoice, none, [⟨1, .role, 0, .connect⟩, ⟨2, .role, .connect, 0⟩]⟩

theorem permissions_private :
    (permissions (BitVec.allOnes 64) 1 9 7 [2] ∅ privateChannel).getLsbD 20 = true := by
  have hrestricted : ¬ Unrestricted 1 9 7 [2] ∅ := by
    simp [Unrestricted, RolesGrant]
  have hrule := (permissions_precedence (BitVec.allOnes 64) 1 9 7 [2] ∅
    (by decide : (privateChannel.permissionOverwrites.map key).Nodup)).2.1 hrestricted 20
    (Or.inl (by decide))
  refine hrule.mpr (Or.inr ⟨?_, Or.inl ?_⟩)
  · simp [Denies, AboutMember, privateChannel]
  · exact ⟨⟨2, .role, .connect, 0⟩, by decide, ⟨rfl, by decide⟩, by decide⟩

end Raydio.Voice
