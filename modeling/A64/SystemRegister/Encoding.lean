import A64.SystemRegister.Basic

/-!
How system instructions encode the names they use: tables from numbers to names.
-/

namespace A64

/-- The five numbers that select a system register. -/
structure SystemEncoding where
  op0 : Nat
  op1 : Nat
  crn : Nat
  crm : Nat
  op2 : Nat
  deriving DecidableEq

/-- The kinds of maintenance operations that have a mnemonic of their own. -/
inductive MaintenanceKind where
  /-- Looking up the memory that an address maps to. -/
  | addressLookup
  /-- Data cache maintenance. -/
  | dataCache
  /-- Instruction cache maintenance. -/
  | instructionCache
  /-- Maintenance of the buffer of address look-ups. -/
  | lookasideBuffer
  deriving DecidableEq

/-- The symbol under which reports record the kind. -/
def MaintenanceKind.symbol : MaintenanceKind → String
  | addressLookup => "At"
  | dataCache => "Dc"
  | instructionCache => "Ic"
  | lookasideBuffer => "Tlbi"

namespace SystemRegister

/-- The registers that can be read, by their numbers. -/
def readable : List (SystemEncoding × SystemRegister) := [
    (⟨2, 0, 0, 0, 2⟩, .osdtrrxEl1), (⟨2, 0, 0, 0, 4⟩, .dbgbvr0El1),
    (⟨2, 0, 0, 0, 5⟩, .dbgbcr0El1), (⟨2, 0, 0, 0, 6⟩, .dbgwvr0El1),
    (⟨2, 0, 0, 0, 7⟩, .dbgwcr0El1), (⟨2, 0, 0, 1, 4⟩, .dbgbvr1El1),
    (⟨2, 0, 0, 1, 5⟩, .dbgbcr1El1), (⟨2, 0, 0, 1, 6⟩, .dbgwvr1El1),
    (⟨2, 0, 0, 1, 7⟩, .dbgwcr1El1), (⟨2, 0, 0, 2, 0⟩, .mdccintEl1), (⟨2, 0, 0, 2, 2⟩, .mdscrEl1),
    (⟨2, 0, 0, 2, 4⟩, .dbgbvr2El1), (⟨2, 0, 0, 2, 5⟩, .dbgbcr2El1),
    (⟨2, 0, 0, 2, 6⟩, .dbgwvr2El1), (⟨2, 0, 0, 2, 7⟩, .dbgwcr2El1),
    (⟨2, 0, 0, 3, 2⟩, .osdtrtxEl1), (⟨2, 0, 0, 3, 4⟩, .dbgbvr3El1),
    (⟨2, 0, 0, 3, 5⟩, .dbgbcr3El1), (⟨2, 0, 0, 3, 6⟩, .dbgwvr3El1),
    (⟨2, 0, 0, 3, 7⟩, .dbgwcr3El1), (⟨2, 0, 0, 4, 4⟩, .dbgbvr4El1),
    (⟨2, 0, 0, 4, 5⟩, .dbgbcr4El1), (⟨2, 0, 0, 4, 6⟩, .dbgwvr4El1),
    (⟨2, 0, 0, 4, 7⟩, .dbgwcr4El1), (⟨2, 0, 0, 5, 4⟩, .dbgbvr5El1),
    (⟨2, 0, 0, 5, 5⟩, .dbgbcr5El1), (⟨2, 0, 0, 5, 6⟩, .dbgwvr5El1),
    (⟨2, 0, 0, 5, 7⟩, .dbgwcr5El1), (⟨2, 0, 0, 6, 2⟩, .oseccrEl1), (⟨2, 0, 0, 6, 4⟩, .dbgbvr6El1),
    (⟨2, 0, 0, 6, 5⟩, .dbgbcr6El1), (⟨2, 0, 0, 6, 6⟩, .dbgwvr6El1),
    (⟨2, 0, 0, 6, 7⟩, .dbgwcr6El1), (⟨2, 0, 0, 7, 4⟩, .dbgbvr7El1),
    (⟨2, 0, 0, 7, 5⟩, .dbgbcr7El1), (⟨2, 0, 0, 7, 6⟩, .dbgwvr7El1),
    (⟨2, 0, 0, 7, 7⟩, .dbgwcr7El1), (⟨2, 0, 0, 8, 4⟩, .dbgbvr8El1),
    (⟨2, 0, 0, 8, 5⟩, .dbgbcr8El1), (⟨2, 0, 0, 8, 6⟩, .dbgwvr8El1),
    (⟨2, 0, 0, 8, 7⟩, .dbgwcr8El1), (⟨2, 0, 0, 9, 4⟩, .dbgbvr9El1),
    (⟨2, 0, 0, 9, 5⟩, .dbgbcr9El1), (⟨2, 0, 0, 9, 6⟩, .dbgwvr9El1),
    (⟨2, 0, 0, 9, 7⟩, .dbgwcr9El1), (⟨2, 0, 0, 10, 4⟩, .dbgbvr10El1),
    (⟨2, 0, 0, 10, 5⟩, .dbgbcr10El1), (⟨2, 0, 0, 10, 6⟩, .dbgwvr10El1),
    (⟨2, 0, 0, 10, 7⟩, .dbgwcr10El1), (⟨2, 0, 0, 11, 4⟩, .dbgbvr11El1),
    (⟨2, 0, 0, 11, 5⟩, .dbgbcr11El1), (⟨2, 0, 0, 11, 6⟩, .dbgwvr11El1),
    (⟨2, 0, 0, 11, 7⟩, .dbgwcr11El1), (⟨2, 0, 0, 12, 4⟩, .dbgbvr12El1),
    (⟨2, 0, 0, 12, 5⟩, .dbgbcr12El1), (⟨2, 0, 0, 12, 6⟩, .dbgwvr12El1),
    (⟨2, 0, 0, 12, 7⟩, .dbgwcr12El1), (⟨2, 0, 0, 13, 4⟩, .dbgbvr13El1),
    (⟨2, 0, 0, 13, 5⟩, .dbgbcr13El1), (⟨2, 0, 0, 13, 6⟩, .dbgwvr13El1),
    (⟨2, 0, 0, 13, 7⟩, .dbgwcr13El1), (⟨2, 0, 0, 14, 4⟩, .dbgbvr14El1),
    (⟨2, 0, 0, 14, 5⟩, .dbgbcr14El1), (⟨2, 0, 0, 14, 6⟩, .dbgwvr14El1),
    (⟨2, 0, 0, 14, 7⟩, .dbgwcr14El1), (⟨2, 0, 0, 15, 4⟩, .dbgbvr15El1),
    (⟨2, 0, 0, 15, 5⟩, .dbgbcr15El1), (⟨2, 0, 0, 15, 6⟩, .dbgwvr15El1),
    (⟨2, 0, 0, 15, 7⟩, .dbgwcr15El1), (⟨2, 0, 1, 0, 0⟩, .mdrarEl1), (⟨2, 0, 1, 0, 4⟩, .oslarEl1),
    (⟨2, 0, 1, 1, 4⟩, .oslsrEl1), (⟨2, 0, 1, 3, 4⟩, .osdlrEl1), (⟨2, 0, 1, 4, 4⟩, .dbgprcrEl1),
    (⟨2, 0, 7, 8, 6⟩, .dbgclaimsetEl1), (⟨2, 0, 7, 9, 6⟩, .dbgclaimclrEl1),
    (⟨2, 0, 7, 14, 6⟩, .dbgauthstatusEl1), (⟨2, 1, 0, 0, 1⟩, .trctraceidr),
    (⟨2, 1, 0, 1, 0⟩, .trcprgctlr), (⟨2, 1, 0, 3, 0⟩, .trcstatr), (⟨2, 1, 0, 4, 0⟩, .trcconfigr),
    (⟨2, 3, 0, 1, 0⟩, .mdccsrEl0), (⟨2, 3, 0, 4, 0⟩, .dbgdtrEl0), (⟨2, 3, 0, 5, 0⟩, .dbgdtrrxEl0),
    (⟨2, 4, 0, 7, 0⟩, .dbgvcr32El2), (⟨3, 0, 0, 0, 0⟩, .midrEl1), (⟨3, 0, 0, 0, 5⟩, .mpidrEl1),
    (⟨3, 0, 0, 0, 6⟩, .revidrEl1), (⟨3, 0, 0, 1, 0⟩, .idPfr0El1), (⟨3, 0, 0, 1, 1⟩, .idPfr1El1),
    (⟨3, 0, 0, 1, 2⟩, .idDfr0El1), (⟨3, 0, 0, 1, 3⟩, .idAfr0El1), (⟨3, 0, 0, 1, 4⟩, .idMmfr0El1),
    (⟨3, 0, 0, 1, 5⟩, .idMmfr1El1), (⟨3, 0, 0, 1, 6⟩, .idMmfr2El1),
    (⟨3, 0, 0, 1, 7⟩, .idMmfr3El1), (⟨3, 0, 0, 2, 0⟩, .idIsar0El1),
    (⟨3, 0, 0, 2, 1⟩, .idIsar1El1), (⟨3, 0, 0, 2, 2⟩, .idIsar2El1),
    (⟨3, 0, 0, 2, 3⟩, .idIsar3El1), (⟨3, 0, 0, 2, 4⟩, .idIsar4El1),
    (⟨3, 0, 0, 2, 5⟩, .idIsar5El1), (⟨3, 0, 0, 2, 6⟩, .idMmfr4El1),
    (⟨3, 0, 0, 2, 7⟩, .idIsar6El1), (⟨3, 0, 0, 3, 0⟩, .mvfr0El1), (⟨3, 0, 0, 3, 1⟩, .mvfr1El1),
    (⟨3, 0, 0, 3, 2⟩, .mvfr2El1), (⟨3, 0, 0, 3, 4⟩, .idPfr2El1), (⟨3, 0, 0, 3, 5⟩, .idDfr1El1),
    (⟨3, 0, 0, 3, 6⟩, .idMmfr5El1), (⟨3, 0, 0, 4, 0⟩, .idAa64pfr0El1),
    (⟨3, 0, 0, 4, 1⟩, .idAa64pfr1El1), (⟨3, 0, 0, 4, 4⟩, .idAa64zfr0El1),
    (⟨3, 0, 0, 4, 5⟩, .idAa64smfr0El1), (⟨3, 0, 0, 5, 0⟩, .idAa64dfr0El1),
    (⟨3, 0, 0, 5, 1⟩, .idAa64dfr1El1), (⟨3, 0, 0, 5, 4⟩, .idAa64afr0El1),
    (⟨3, 0, 0, 5, 5⟩, .idAa64afr1El1), (⟨3, 0, 0, 6, 0⟩, .idAa64isar0El1),
    (⟨3, 0, 0, 6, 1⟩, .idAa64isar1El1), (⟨3, 0, 0, 6, 2⟩, .idAa64isar2El1),
    (⟨3, 0, 0, 7, 0⟩, .idAa64mmfr0El1), (⟨3, 0, 0, 7, 1⟩, .idAa64mmfr1El1),
    (⟨3, 0, 0, 7, 2⟩, .idAa64mmfr2El1), (⟨3, 0, 1, 0, 0⟩, .sctlrEl1),
    (⟨3, 0, 1, 0, 1⟩, .actlrEl1), (⟨3, 0, 1, 0, 2⟩, .cpacrEl1), (⟨3, 0, 1, 0, 5⟩, .rgsrEl1),
    (⟨3, 0, 1, 0, 6⟩, .gcrEl1), (⟨3, 0, 1, 2, 0⟩, .zcrEl1), (⟨3, 0, 1, 2, 1⟩, .trfcrEl1),
    (⟨3, 0, 1, 2, 4⟩, .smpriEl1), (⟨3, 0, 1, 2, 6⟩, .smcrEl1), (⟨3, 0, 2, 0, 0⟩, .ttbr0El1),
    (⟨3, 0, 2, 0, 1⟩, .ttbr1El1), (⟨3, 0, 2, 0, 2⟩, .tcrEl1), (⟨3, 0, 2, 1, 0⟩, .apiakeyloEl1),
    (⟨3, 0, 2, 1, 1⟩, .apiakeyhiEl1), (⟨3, 0, 2, 1, 2⟩, .apibkeyloEl1),
    (⟨3, 0, 2, 1, 3⟩, .apibkeyhiEl1), (⟨3, 0, 2, 2, 0⟩, .apdakeyloEl1),
    (⟨3, 0, 2, 2, 1⟩, .apdakeyhiEl1), (⟨3, 0, 2, 2, 2⟩, .apdbkeyloEl1),
    (⟨3, 0, 2, 2, 3⟩, .apdbkeyhiEl1), (⟨3, 0, 2, 3, 0⟩, .apgakeyloEl1),
    (⟨3, 0, 2, 3, 1⟩, .apgakeyhiEl1), (⟨3, 0, 4, 0, 0⟩, .spsrEl1), (⟨3, 0, 4, 0, 1⟩, .elrEl1),
    (⟨3, 0, 4, 1, 0⟩, .spEl0), (⟨3, 0, 4, 2, 0⟩, .spsel), (⟨3, 0, 4, 2, 2⟩, .currentel),
    (⟨3, 0, 4, 2, 3⟩, .pan), (⟨3, 0, 4, 2, 4⟩, .uao), (⟨3, 0, 4, 6, 0⟩, .iccPmrEl1),
    (⟨3, 0, 5, 1, 0⟩, .afsr0El1), (⟨3, 0, 5, 1, 1⟩, .afsr1El1), (⟨3, 0, 5, 2, 0⟩, .esrEl1),
    (⟨3, 0, 5, 3, 0⟩, .erridrEl1), (⟨3, 0, 5, 3, 1⟩, .errselrEl1), (⟨3, 0, 5, 4, 0⟩, .erxfrEl1),
    (⟨3, 0, 5, 4, 1⟩, .erxctlrEl1), (⟨3, 0, 5, 4, 2⟩, .erxstatusEl1),
    (⟨3, 0, 5, 4, 3⟩, .erxaddrEl1), (⟨3, 0, 5, 4, 4⟩, .erxpfgfEl1),
    (⟨3, 0, 5, 4, 5⟩, .erxpfgctlEl1), (⟨3, 0, 5, 4, 6⟩, .erxpfgcdnEl1),
    (⟨3, 0, 5, 5, 0⟩, .erxmisc0El1), (⟨3, 0, 5, 5, 1⟩, .erxmisc1El1),
    (⟨3, 0, 5, 5, 2⟩, .erxmisc2El1), (⟨3, 0, 5, 5, 3⟩, .erxmisc3El1), (⟨3, 0, 5, 6, 0⟩, .tfsrEl1),
    (⟨3, 0, 5, 6, 1⟩, .tfsre0El1), (⟨3, 0, 6, 0, 0⟩, .farEl1), (⟨3, 0, 7, 4, 0⟩, .parEl1),
    (⟨3, 0, 9, 9, 0⟩, .pmscrEl1), (⟨3, 0, 9, 9, 1⟩, .pmsnevfrEl1), (⟨3, 0, 9, 9, 2⟩, .pmsicrEl1),
    (⟨3, 0, 9, 9, 3⟩, .pmsirrEl1), (⟨3, 0, 9, 9, 4⟩, .pmsfcrEl1), (⟨3, 0, 9, 9, 5⟩, .pmsevfrEl1),
    (⟨3, 0, 9, 9, 6⟩, .pmslatfrEl1), (⟨3, 0, 9, 9, 7⟩, .pmsidrEl1),
    (⟨3, 0, 9, 10, 0⟩, .pmblimitrEl1), (⟨3, 0, 9, 10, 1⟩, .pmbptrEl1),
    (⟨3, 0, 9, 10, 3⟩, .pmbsrEl1), (⟨3, 0, 9, 10, 7⟩, .pmbidrEl1),
    (⟨3, 0, 9, 11, 0⟩, .trblimitrEl1), (⟨3, 0, 9, 11, 1⟩, .trbptrEl1),
    (⟨3, 0, 9, 11, 2⟩, .trbbaserEl1), (⟨3, 0, 9, 11, 3⟩, .trbsrEl1),
    (⟨3, 0, 9, 11, 4⟩, .trbmarEl1), (⟨3, 0, 9, 11, 6⟩, .trbtrgEl1),
    (⟨3, 0, 9, 11, 7⟩, .trbidrEl1), (⟨3, 0, 9, 14, 1⟩, .pmintensetEl1),
    (⟨3, 0, 9, 14, 2⟩, .pmintenclrEl1), (⟨3, 0, 9, 14, 6⟩, .pmmirEl1),
    (⟨3, 0, 10, 2, 0⟩, .mairEl1), (⟨3, 0, 10, 3, 0⟩, .amairEl1), (⟨3, 0, 10, 4, 0⟩, .lorsaEl1),
    (⟨3, 0, 10, 4, 1⟩, .loreaEl1), (⟨3, 0, 10, 4, 2⟩, .lornEl1), (⟨3, 0, 10, 4, 3⟩, .lorcEl1),
    (⟨3, 0, 10, 4, 4⟩, .mpamidrEl1), (⟨3, 0, 10, 4, 7⟩, .loridEl1), (⟨3, 0, 10, 5, 0⟩, .mpam1El1),
    (⟨3, 0, 10, 5, 1⟩, .mpam0El1), (⟨3, 0, 12, 0, 0⟩, .vbarEl1), (⟨3, 0, 12, 0, 1⟩, .rvbarEl1),
    (⟨3, 0, 12, 0, 2⟩, .rmrEl1), (⟨3, 0, 12, 1, 0⟩, .isrEl1), (⟨3, 0, 12, 1, 1⟩, .disrEl1),
    (⟨3, 0, 12, 8, 0⟩, .iccIar0El1), (⟨3, 0, 12, 8, 1⟩, .iccEoir0El1),
    (⟨3, 0, 12, 8, 2⟩, .iccHppir0El1), (⟨3, 0, 12, 8, 3⟩, .iccBpr0El1),
    (⟨3, 0, 12, 8, 4⟩, .iccAp0r0El1), (⟨3, 0, 12, 8, 5⟩, .iccAp0r1El1),
    (⟨3, 0, 12, 8, 6⟩, .iccAp0r2El1), (⟨3, 0, 12, 8, 7⟩, .iccAp0r3El1),
    (⟨3, 0, 12, 9, 0⟩, .iccAp1r0El1), (⟨3, 0, 12, 9, 1⟩, .iccAp1r1El1),
    (⟨3, 0, 12, 9, 2⟩, .iccAp1r2El1), (⟨3, 0, 12, 9, 3⟩, .iccAp1r3El1),
    (⟨3, 0, 12, 9, 5⟩, .iccNmiar1El1), (⟨3, 0, 12, 11, 1⟩, .iccDirEl1),
    (⟨3, 0, 12, 11, 3⟩, .iccRprEl1), (⟨3, 0, 12, 11, 5⟩, .iccSgi1rEl1),
    (⟨3, 0, 12, 11, 6⟩, .iccAsgi1rEl1), (⟨3, 0, 12, 11, 7⟩, .iccSgi0rEl1),
    (⟨3, 0, 12, 12, 0⟩, .iccIar1El1), (⟨3, 0, 12, 12, 1⟩, .iccEoir1El1),
    (⟨3, 0, 12, 12, 2⟩, .iccHppir1El1), (⟨3, 0, 12, 12, 3⟩, .iccBpr1El1),
    (⟨3, 0, 12, 12, 4⟩, .iccCtlrEl1), (⟨3, 0, 12, 12, 5⟩, .iccSreEl1),
    (⟨3, 0, 12, 12, 6⟩, .iccIgrpen0El1), (⟨3, 0, 12, 12, 7⟩, .iccIgrpen1El1),
    (⟨3, 0, 13, 0, 1⟩, .contextidrEl1), (⟨3, 0, 13, 0, 4⟩, .tpidrEl1),
    (⟨3, 0, 13, 0, 5⟩, .accdataEl1), (⟨3, 0, 13, 0, 7⟩, .scxtnumEl1),
    (⟨3, 0, 14, 1, 0⟩, .cntkctlEl1), (⟨3, 1, 0, 0, 0⟩, .ccsidrEl1), (⟨3, 1, 0, 0, 1⟩, .clidrEl1),
    (⟨3, 1, 0, 0, 2⟩, .ccsidr2El1), (⟨3, 1, 0, 0, 4⟩, .gmidEl1), (⟨3, 1, 0, 0, 7⟩, .aidrEl1),
    (⟨3, 2, 0, 0, 0⟩, .csselrEl1), (⟨3, 3, 0, 0, 1⟩, .ctrEl0), (⟨3, 3, 0, 0, 7⟩, .dczidEl0),
    (⟨3, 3, 2, 4, 0⟩, .rndr), (⟨3, 3, 2, 4, 1⟩, .rndrrs), (⟨3, 3, 4, 2, 0⟩, .nzcv),
    (⟨3, 3, 4, 2, 1⟩, .daif), (⟨3, 3, 4, 2, 2⟩, .svcr), (⟨3, 3, 4, 2, 5⟩, .dit),
    (⟨3, 3, 4, 2, 6⟩, .ssbs), (⟨3, 3, 4, 2, 7⟩, .tco), (⟨3, 3, 4, 4, 0⟩, .fpcr),
    (⟨3, 3, 4, 4, 1⟩, .fpsr), (⟨3, 3, 4, 5, 0⟩, .dspsrEl0), (⟨3, 3, 4, 5, 1⟩, .dlrEl0),
    (⟨3, 3, 9, 12, 0⟩, .pmcrEl0), (⟨3, 3, 9, 12, 1⟩, .pmcntensetEl0),
    (⟨3, 3, 9, 12, 2⟩, .pmcntenclrEl0), (⟨3, 3, 9, 12, 3⟩, .pmovsclrEl0),
    (⟨3, 3, 9, 12, 4⟩, .pmswincEl0), (⟨3, 3, 9, 12, 5⟩, .pmselrEl0),
    (⟨3, 3, 9, 12, 6⟩, .pmceid0El0), (⟨3, 3, 9, 12, 7⟩, .pmceid1El0),
    (⟨3, 3, 9, 13, 0⟩, .pmccntrEl0), (⟨3, 3, 9, 13, 1⟩, .pmxevtyperEl0),
    (⟨3, 3, 9, 13, 2⟩, .pmxevcntrEl0), (⟨3, 3, 9, 14, 0⟩, .pmuserenrEl0),
    (⟨3, 3, 9, 14, 3⟩, .pmovssetEl0), (⟨3, 3, 13, 0, 2⟩, .tpidrEl0),
    (⟨3, 3, 13, 0, 3⟩, .tpidrroEl0), (⟨3, 3, 13, 0, 5⟩, .tpidr2El0),
    (⟨3, 3, 13, 0, 7⟩, .scxtnumEl0), (⟨3, 3, 13, 2, 0⟩, .amcrEl0), (⟨3, 3, 13, 2, 1⟩, .amcfgrEl0),
    (⟨3, 3, 13, 2, 2⟩, .amcgcrEl0), (⟨3, 3, 13, 2, 3⟩, .amuserenrEl0),
    (⟨3, 3, 13, 2, 4⟩, .amcntenclr0El0), (⟨3, 3, 13, 2, 5⟩, .amcntenset0El0),
    (⟨3, 3, 13, 2, 6⟩, .amcg1idrEl0), (⟨3, 3, 13, 3, 0⟩, .amcntenclr1El0),
    (⟨3, 3, 13, 3, 1⟩, .amcntenset1El0), (⟨3, 3, 13, 4, 0⟩, .amevcntr00El0),
    (⟨3, 3, 13, 4, 1⟩, .amevcntr01El0), (⟨3, 3, 13, 4, 2⟩, .amevcntr02El0),
    (⟨3, 3, 13, 4, 3⟩, .amevcntr03El0), (⟨3, 3, 13, 4, 4⟩, .amevcntr04El0),
    (⟨3, 3, 13, 4, 5⟩, .amevcntr05El0), (⟨3, 3, 13, 4, 6⟩, .amevcntr06El0),
    (⟨3, 3, 13, 4, 7⟩, .amevcntr07El0), (⟨3, 3, 13, 5, 0⟩, .amevcntr08El0),
    (⟨3, 3, 13, 5, 1⟩, .amevcntr09El0), (⟨3, 3, 13, 5, 2⟩, .amevcntr010El0),
    (⟨3, 3, 13, 5, 3⟩, .amevcntr011El0), (⟨3, 3, 13, 5, 4⟩, .amevcntr012El0),
    (⟨3, 3, 13, 5, 5⟩, .amevcntr013El0), (⟨3, 3, 13, 5, 6⟩, .amevcntr014El0),
    (⟨3, 3, 13, 5, 7⟩, .amevcntr015El0), (⟨3, 3, 13, 6, 0⟩, .amevtyper00El0),
    (⟨3, 3, 13, 6, 1⟩, .amevtyper01El0), (⟨3, 3, 13, 6, 2⟩, .amevtyper02El0),
    (⟨3, 3, 13, 6, 3⟩, .amevtyper03El0), (⟨3, 3, 13, 6, 4⟩, .amevtyper04El0),
    (⟨3, 3, 13, 6, 5⟩, .amevtyper05El0), (⟨3, 3, 13, 6, 6⟩, .amevtyper06El0),
    (⟨3, 3, 13, 6, 7⟩, .amevtyper07El0), (⟨3, 3, 13, 7, 0⟩, .amevtyper08El0),
    (⟨3, 3, 13, 7, 1⟩, .amevtyper09El0), (⟨3, 3, 13, 7, 2⟩, .amevtyper010El0),
    (⟨3, 3, 13, 7, 3⟩, .amevtyper011El0), (⟨3, 3, 13, 7, 4⟩, .amevtyper012El0),
    (⟨3, 3, 13, 7, 5⟩, .amevtyper013El0), (⟨3, 3, 13, 7, 6⟩, .amevtyper014El0),
    (⟨3, 3, 13, 7, 7⟩, .amevtyper015El0), (⟨3, 3, 13, 12, 0⟩, .amevcntr10El0),
    (⟨3, 3, 13, 12, 1⟩, .amevcntr11El0), (⟨3, 3, 13, 12, 2⟩, .amevcntr12El0),
    (⟨3, 3, 13, 12, 3⟩, .amevcntr13El0), (⟨3, 3, 13, 12, 4⟩, .amevcntr14El0),
    (⟨3, 3, 13, 12, 5⟩, .amevcntr15El0), (⟨3, 3, 13, 12, 6⟩, .amevcntr16El0),
    (⟨3, 3, 13, 12, 7⟩, .amevcntr17El0), (⟨3, 3, 13, 13, 0⟩, .amevcntr18El0),
    (⟨3, 3, 13, 13, 1⟩, .amevcntr19El0), (⟨3, 3, 13, 13, 2⟩, .amevcntr110El0),
    (⟨3, 3, 13, 13, 3⟩, .amevcntr111El0), (⟨3, 3, 13, 13, 4⟩, .amevcntr112El0),
    (⟨3, 3, 13, 13, 5⟩, .amevcntr113El0), (⟨3, 3, 13, 13, 6⟩, .amevcntr114El0),
    (⟨3, 3, 13, 13, 7⟩, .amevcntr115El0), (⟨3, 3, 13, 14, 0⟩, .amevtyper10El0),
    (⟨3, 3, 13, 14, 1⟩, .amevtyper11El0), (⟨3, 3, 13, 14, 2⟩, .amevtyper12El0),
    (⟨3, 3, 13, 14, 3⟩, .amevtyper13El0), (⟨3, 3, 13, 14, 4⟩, .amevtyper14El0),
    (⟨3, 3, 13, 14, 5⟩, .amevtyper15El0), (⟨3, 3, 13, 14, 6⟩, .amevtyper16El0),
    (⟨3, 3, 13, 14, 7⟩, .amevtyper17El0), (⟨3, 3, 13, 15, 0⟩, .amevtyper18El0),
    (⟨3, 3, 13, 15, 1⟩, .amevtyper19El0), (⟨3, 3, 13, 15, 2⟩, .amevtyper110El0),
    (⟨3, 3, 13, 15, 3⟩, .amevtyper111El0), (⟨3, 3, 13, 15, 4⟩, .amevtyper112El0),
    (⟨3, 3, 13, 15, 5⟩, .amevtyper113El0), (⟨3, 3, 13, 15, 6⟩, .amevtyper114El0),
    (⟨3, 3, 13, 15, 7⟩, .amevtyper115El0), (⟨3, 3, 14, 0, 0⟩, .cntfrqEl0),
    (⟨3, 3, 14, 0, 1⟩, .cntpctEl0), (⟨3, 3, 14, 0, 2⟩, .cntvctEl0),
    (⟨3, 3, 14, 0, 5⟩, .cntpctssEl0), (⟨3, 3, 14, 0, 6⟩, .cntvctssEl0),
    (⟨3, 3, 14, 2, 0⟩, .cntpTvalEl0), (⟨3, 3, 14, 2, 1⟩, .cntpCtlEl0),
    (⟨3, 3, 14, 2, 2⟩, .cntpCvalEl0), (⟨3, 3, 14, 3, 0⟩, .cntvTvalEl0),
    (⟨3, 3, 14, 3, 1⟩, .cntvCtlEl0), (⟨3, 3, 14, 3, 2⟩, .cntvCvalEl0),
    (⟨3, 3, 14, 8, 0⟩, .pmevcntr0El0), (⟨3, 3, 14, 8, 1⟩, .pmevcntr1El0),
    (⟨3, 3, 14, 8, 2⟩, .pmevcntr2El0), (⟨3, 3, 14, 8, 3⟩, .pmevcntr3El0),
    (⟨3, 3, 14, 8, 4⟩, .pmevcntr4El0), (⟨3, 3, 14, 8, 5⟩, .pmevcntr5El0),
    (⟨3, 3, 14, 8, 6⟩, .pmevcntr6El0), (⟨3, 3, 14, 8, 7⟩, .pmevcntr7El0),
    (⟨3, 3, 14, 9, 0⟩, .pmevcntr8El0), (⟨3, 3, 14, 9, 1⟩, .pmevcntr9El0),
    (⟨3, 3, 14, 9, 2⟩, .pmevcntr10El0), (⟨3, 3, 14, 9, 3⟩, .pmevcntr11El0),
    (⟨3, 3, 14, 9, 4⟩, .pmevcntr12El0), (⟨3, 3, 14, 9, 5⟩, .pmevcntr13El0),
    (⟨3, 3, 14, 9, 6⟩, .pmevcntr14El0), (⟨3, 3, 14, 9, 7⟩, .pmevcntr15El0),
    (⟨3, 3, 14, 10, 0⟩, .pmevcntr16El0), (⟨3, 3, 14, 10, 1⟩, .pmevcntr17El0),
    (⟨3, 3, 14, 10, 2⟩, .pmevcntr18El0), (⟨3, 3, 14, 10, 3⟩, .pmevcntr19El0),
    (⟨3, 3, 14, 10, 4⟩, .pmevcntr20El0), (⟨3, 3, 14, 10, 5⟩, .pmevcntr21El0),
    (⟨3, 3, 14, 10, 6⟩, .pmevcntr22El0), (⟨3, 3, 14, 10, 7⟩, .pmevcntr23El0),
    (⟨3, 3, 14, 11, 0⟩, .pmevcntr24El0), (⟨3, 3, 14, 11, 1⟩, .pmevcntr25El0),
    (⟨3, 3, 14, 11, 2⟩, .pmevcntr26El0), (⟨3, 3, 14, 11, 3⟩, .pmevcntr27El0),
    (⟨3, 3, 14, 11, 4⟩, .pmevcntr28El0), (⟨3, 3, 14, 11, 5⟩, .pmevcntr29El0),
    (⟨3, 3, 14, 11, 6⟩, .pmevcntr30El0), (⟨3, 3, 14, 12, 0⟩, .pmevtyper0El0),
    (⟨3, 3, 14, 12, 1⟩, .pmevtyper1El0), (⟨3, 3, 14, 12, 2⟩, .pmevtyper2El0),
    (⟨3, 3, 14, 12, 3⟩, .pmevtyper3El0), (⟨3, 3, 14, 12, 4⟩, .pmevtyper4El0),
    (⟨3, 3, 14, 12, 5⟩, .pmevtyper5El0), (⟨3, 3, 14, 12, 6⟩, .pmevtyper6El0),
    (⟨3, 3, 14, 12, 7⟩, .pmevtyper7El0), (⟨3, 3, 14, 13, 0⟩, .pmevtyper8El0),
    (⟨3, 3, 14, 13, 1⟩, .pmevtyper9El0), (⟨3, 3, 14, 13, 2⟩, .pmevtyper10El0),
    (⟨3, 3, 14, 13, 3⟩, .pmevtyper11El0), (⟨3, 3, 14, 13, 4⟩, .pmevtyper12El0),
    (⟨3, 3, 14, 13, 5⟩, .pmevtyper13El0), (⟨3, 3, 14, 13, 6⟩, .pmevtyper14El0),
    (⟨3, 3, 14, 13, 7⟩, .pmevtyper15El0), (⟨3, 3, 14, 14, 0⟩, .pmevtyper16El0),
    (⟨3, 3, 14, 14, 1⟩, .pmevtyper17El0), (⟨3, 3, 14, 14, 2⟩, .pmevtyper18El0),
    (⟨3, 3, 14, 14, 3⟩, .pmevtyper19El0), (⟨3, 3, 14, 14, 4⟩, .pmevtyper20El0),
    (⟨3, 3, 14, 14, 5⟩, .pmevtyper21El0), (⟨3, 3, 14, 14, 6⟩, .pmevtyper22El0),
    (⟨3, 3, 14, 14, 7⟩, .pmevtyper23El0), (⟨3, 3, 14, 15, 0⟩, .pmevtyper24El0),
    (⟨3, 3, 14, 15, 1⟩, .pmevtyper25El0), (⟨3, 3, 14, 15, 2⟩, .pmevtyper26El0),
    (⟨3, 3, 14, 15, 3⟩, .pmevtyper27El0), (⟨3, 3, 14, 15, 4⟩, .pmevtyper28El0),
    (⟨3, 3, 14, 15, 5⟩, .pmevtyper29El0), (⟨3, 3, 14, 15, 6⟩, .pmevtyper30El0),
    (⟨3, 3, 14, 15, 7⟩, .pmccfiltrEl0), (⟨3, 4, 0, 0, 0⟩, .vpidrEl2),
    (⟨3, 4, 0, 0, 5⟩, .vmpidrEl2), (⟨3, 4, 1, 0, 0⟩, .sctlrEl2), (⟨3, 4, 1, 0, 1⟩, .actlrEl2),
    (⟨3, 4, 1, 1, 0⟩, .hcrEl2), (⟨3, 4, 1, 1, 1⟩, .mdcrEl2), (⟨3, 4, 1, 1, 2⟩, .cptrEl2),
    (⟨3, 4, 1, 1, 3⟩, .hstrEl2), (⟨3, 4, 1, 1, 4⟩, .hfgrtrEl2), (⟨3, 4, 1, 1, 5⟩, .hfgwtrEl2),
    (⟨3, 4, 1, 1, 6⟩, .hfgitrEl2), (⟨3, 4, 1, 1, 7⟩, .hacrEl2), (⟨3, 4, 1, 2, 0⟩, .zcrEl2),
    (⟨3, 4, 1, 2, 1⟩, .trfcrEl2), (⟨3, 4, 1, 3, 1⟩, .sder32El2), (⟨3, 4, 2, 0, 0⟩, .ttbr0El2),
    (⟨3, 4, 2, 0, 1⟩, .ttbr1El2), (⟨3, 4, 2, 0, 2⟩, .tcrEl2), (⟨3, 4, 2, 1, 0⟩, .vttbrEl2),
    (⟨3, 4, 2, 1, 2⟩, .vtcrEl2), (⟨3, 4, 2, 2, 0⟩, .vncrEl2), (⟨3, 4, 2, 6, 0⟩, .vsttbrEl2),
    (⟨3, 4, 2, 6, 2⟩, .vstcrEl2), (⟨3, 4, 3, 0, 0⟩, .dacr32El2), (⟨3, 4, 4, 0, 0⟩, .spsrEl2),
    (⟨3, 4, 4, 0, 1⟩, .elrEl2), (⟨3, 4, 4, 1, 0⟩, .spEl1), (⟨3, 4, 4, 3, 0⟩, .spsrIrq),
    (⟨3, 4, 4, 3, 1⟩, .spsrAbt), (⟨3, 4, 4, 3, 2⟩, .spsrUnd), (⟨3, 4, 4, 3, 3⟩, .spsrFiq),
    (⟨3, 4, 5, 0, 1⟩, .ifsr32El2), (⟨3, 4, 5, 1, 0⟩, .afsr0El2), (⟨3, 4, 5, 1, 1⟩, .afsr1El2),
    (⟨3, 4, 5, 2, 0⟩, .esrEl2), (⟨3, 4, 5, 2, 3⟩, .vsesrEl2), (⟨3, 4, 5, 3, 0⟩, .fpexc32El2),
    (⟨3, 4, 5, 6, 0⟩, .tfsrEl2), (⟨3, 4, 6, 0, 0⟩, .farEl2), (⟨3, 4, 6, 0, 4⟩, .hpfarEl2),
    (⟨3, 4, 9, 9, 0⟩, .pmscrEl2), (⟨3, 4, 10, 2, 0⟩, .mairEl2), (⟨3, 4, 10, 3, 0⟩, .amairEl2),
    (⟨3, 4, 10, 4, 0⟩, .mpamhcrEl2), (⟨3, 4, 10, 4, 1⟩, .mpamvpmvEl2),
    (⟨3, 4, 10, 5, 0⟩, .mpam2El2), (⟨3, 4, 12, 0, 0⟩, .vbarEl2), (⟨3, 4, 12, 0, 1⟩, .rvbarEl2),
    (⟨3, 4, 12, 0, 2⟩, .rmrEl2), (⟨3, 4, 12, 1, 1⟩, .vdisrEl2), (⟨3, 4, 12, 8, 0⟩, .ichAp0r0El2),
    (⟨3, 4, 12, 8, 1⟩, .ichAp0r1El2), (⟨3, 4, 12, 8, 2⟩, .ichAp0r2El2),
    (⟨3, 4, 12, 8, 3⟩, .ichAp0r3El2), (⟨3, 4, 12, 9, 0⟩, .ichAp1r0El2),
    (⟨3, 4, 12, 9, 1⟩, .ichAp1r1El2), (⟨3, 4, 12, 9, 2⟩, .ichAp1r2El2),
    (⟨3, 4, 12, 9, 3⟩, .ichAp1r3El2), (⟨3, 4, 12, 9, 5⟩, .iccSreEl2),
    (⟨3, 4, 12, 11, 0⟩, .ichHcrEl2), (⟨3, 4, 12, 11, 1⟩, .ichVtrEl2),
    (⟨3, 4, 12, 11, 2⟩, .ichMisrEl2), (⟨3, 4, 12, 11, 3⟩, .ichEisrEl2),
    (⟨3, 4, 12, 11, 5⟩, .ichElrsrEl2), (⟨3, 4, 12, 11, 7⟩, .ichVmcrEl2),
    (⟨3, 4, 12, 12, 0⟩, .ichLr0El2), (⟨3, 4, 12, 12, 1⟩, .ichLr1El2),
    (⟨3, 4, 12, 12, 2⟩, .ichLr2El2), (⟨3, 4, 12, 12, 3⟩, .ichLr3El2),
    (⟨3, 4, 12, 12, 4⟩, .ichLr4El2), (⟨3, 4, 12, 12, 5⟩, .ichLr5El2),
    (⟨3, 4, 12, 12, 6⟩, .ichLr6El2), (⟨3, 4, 12, 12, 7⟩, .ichLr7El2),
    (⟨3, 4, 12, 13, 0⟩, .ichLr8El2), (⟨3, 4, 12, 13, 1⟩, .ichLr9El2),
    (⟨3, 4, 12, 13, 2⟩, .ichLr10El2), (⟨3, 4, 12, 13, 3⟩, .ichLr11El2),
    (⟨3, 4, 12, 13, 4⟩, .ichLr12El2), (⟨3, 4, 12, 13, 5⟩, .ichLr13El2),
    (⟨3, 4, 12, 13, 6⟩, .ichLr14El2), (⟨3, 4, 12, 13, 7⟩, .ichLr15El2),
    (⟨3, 4, 13, 0, 1⟩, .contextidrEl2), (⟨3, 4, 13, 0, 2⟩, .tpidrEl2),
    (⟨3, 4, 13, 0, 7⟩, .scxtnumEl2), (⟨3, 4, 14, 0, 3⟩, .cntvoffEl2),
    (⟨3, 4, 14, 0, 6⟩, .cntpoffEl2), (⟨3, 4, 14, 1, 0⟩, .cnthctlEl2),
    (⟨3, 4, 14, 2, 0⟩, .cnthpTvalEl2), (⟨3, 4, 14, 2, 1⟩, .cnthpCtlEl2),
    (⟨3, 4, 14, 2, 2⟩, .cnthpCvalEl2), (⟨3, 4, 14, 3, 0⟩, .cnthvTvalEl2),
    (⟨3, 4, 14, 3, 1⟩, .cnthvCtlEl2), (⟨3, 4, 14, 3, 2⟩, .cnthvCvalEl2),
    (⟨3, 4, 14, 4, 0⟩, .cnthvsTvalEl2), (⟨3, 4, 14, 4, 1⟩, .cnthvsCtlEl2),
    (⟨3, 4, 14, 4, 2⟩, .cnthvsCvalEl2), (⟨3, 4, 14, 5, 0⟩, .cnthpsTvalEl2),
    (⟨3, 4, 14, 5, 1⟩, .cnthpsCtlEl2), (⟨3, 4, 14, 5, 2⟩, .cnthpsCvalEl2),
    (⟨3, 5, 1, 0, 0⟩, .sctlrEl12), (⟨3, 5, 1, 0, 2⟩, .cpacrEl12), (⟨3, 5, 1, 2, 0⟩, .zcrEl12),
    (⟨3, 5, 1, 2, 1⟩, .trfcrEl12), (⟨3, 5, 2, 0, 0⟩, .ttbr0El12), (⟨3, 5, 2, 0, 1⟩, .ttbr1El12),
    (⟨3, 5, 2, 0, 2⟩, .tcrEl12), (⟨3, 5, 4, 0, 0⟩, .spsrEl12), (⟨3, 5, 4, 0, 1⟩, .elrEl12),
    (⟨3, 5, 5, 1, 0⟩, .afsr0El12), (⟨3, 5, 5, 1, 1⟩, .afsr1El12), (⟨3, 5, 5, 2, 0⟩, .esrEl12),
    (⟨3, 5, 5, 6, 0⟩, .tfsrEl12), (⟨3, 5, 6, 0, 0⟩, .farEl12), (⟨3, 5, 9, 9, 0⟩, .pmscrEl12),
    (⟨3, 5, 10, 2, 0⟩, .mairEl12), (⟨3, 5, 10, 3, 0⟩, .amairEl12), (⟨3, 5, 10, 5, 0⟩, .mpam1El12),
    (⟨3, 5, 12, 0, 0⟩, .vbarEl12), (⟨3, 5, 13, 0, 1⟩, .contextidrEl12),
    (⟨3, 5, 13, 0, 7⟩, .scxtnumEl12), (⟨3, 5, 14, 1, 0⟩, .cntkctlEl12),
    (⟨3, 5, 14, 2, 0⟩, .cntpTvalEl02), (⟨3, 5, 14, 2, 1⟩, .cntpCtlEl02),
    (⟨3, 5, 14, 2, 2⟩, .cntpCvalEl02), (⟨3, 5, 14, 3, 0⟩, .cntvTvalEl02),
    (⟨3, 5, 14, 3, 1⟩, .cntvCtlEl02), (⟨3, 5, 14, 3, 2⟩, .cntvCvalEl02),
    (⟨3, 6, 1, 0, 0⟩, .sctlrEl3), (⟨3, 6, 1, 0, 1⟩, .actlrEl3), (⟨3, 6, 1, 1, 0⟩, .scrEl3),
    (⟨3, 6, 1, 1, 1⟩, .sder32El3), (⟨3, 6, 1, 1, 2⟩, .cptrEl3), (⟨3, 6, 1, 2, 0⟩, .zcrEl3),
    (⟨3, 6, 1, 3, 1⟩, .mdcrEl3), (⟨3, 6, 2, 0, 0⟩, .ttbr0El3), (⟨3, 6, 2, 0, 2⟩, .tcrEl3),
    (⟨3, 6, 4, 0, 0⟩, .spsrEl3), (⟨3, 6, 4, 0, 1⟩, .elrEl3), (⟨3, 6, 4, 1, 0⟩, .spEl2),
    (⟨3, 6, 5, 1, 0⟩, .afsr0El3), (⟨3, 6, 5, 1, 1⟩, .afsr1El3), (⟨3, 6, 5, 2, 0⟩, .esrEl3),
    (⟨3, 6, 5, 6, 0⟩, .tfsrEl3), (⟨3, 6, 6, 0, 0⟩, .farEl3), (⟨3, 6, 10, 2, 0⟩, .mairEl3),
    (⟨3, 6, 10, 3, 0⟩, .amairEl3), (⟨3, 6, 10, 5, 0⟩, .mpam3El3), (⟨3, 6, 12, 0, 0⟩, .vbarEl3),
    (⟨3, 6, 12, 0, 1⟩, .rvbarEl3), (⟨3, 6, 12, 0, 2⟩, .rmrEl3), (⟨3, 6, 12, 12, 4⟩, .iccCtlrEl3),
    (⟨3, 6, 12, 12, 5⟩, .iccSreEl3), (⟨3, 6, 12, 12, 7⟩, .iccIgrpen1El3),
    (⟨3, 6, 13, 0, 2⟩, .tpidrEl3), (⟨3, 6, 13, 0, 7⟩, .scxtnumEl3),
    (⟨3, 7, 14, 2, 0⟩, .cntpsTvalEl1), (⟨3, 7, 14, 2, 1⟩, .cntpsCtlEl1),
    (⟨3, 7, 14, 2, 2⟩, .cntpsCvalEl1)]

/-- The maintenance operations, by the numbers of the system instruction. The first number of a
system instruction is one. -/
def maintained : List (SystemEncoding × MaintenanceKind × SystemRegister) := [
    (⟨1, 0, 7, 1, 0⟩, .instructionCache, .ialluis), (⟨1, 0, 7, 5, 0⟩, .instructionCache, .iallu),
    (⟨1, 0, 7, 6, 1⟩, .dataCache, .ivac), (⟨1, 0, 7, 6, 2⟩, .dataCache, .isw),
    (⟨1, 0, 7, 8, 0⟩, .addressLookup, .s1e1r), (⟨1, 0, 7, 8, 1⟩, .addressLookup, .s1e1w),
    (⟨1, 0, 7, 8, 2⟩, .addressLookup, .s1e0r), (⟨1, 0, 7, 8, 3⟩, .addressLookup, .s1e0w),
    (⟨1, 0, 7, 9, 0⟩, .addressLookup, .s1e1rp), (⟨1, 0, 7, 9, 1⟩, .addressLookup, .s1e1wp),
    (⟨1, 0, 7, 10, 2⟩, .dataCache, .csw), (⟨1, 0, 7, 14, 2⟩, .dataCache, .cisw),
    (⟨1, 0, 8, 1, 0⟩, .lookasideBuffer, .vmalle1os), (⟨1, 0, 8, 1, 1⟩, .lookasideBuffer, .vae1os),
    (⟨1, 0, 8, 1, 2⟩, .lookasideBuffer, .aside1os), (⟨1, 0, 8, 1, 3⟩, .lookasideBuffer, .vaae1os),
    (⟨1, 0, 8, 1, 5⟩, .lookasideBuffer, .vale1os), (⟨1, 0, 8, 1, 7⟩, .lookasideBuffer, .vaale1os),
    (⟨1, 0, 8, 2, 1⟩, .lookasideBuffer, .rvae1is), (⟨1, 0, 8, 2, 3⟩, .lookasideBuffer, .rvaae1is),
    (⟨1, 0, 8, 2, 5⟩, .lookasideBuffer, .rvale1is),
    (⟨1, 0, 8, 2, 7⟩, .lookasideBuffer, .rvaale1is),
    (⟨1, 0, 8, 3, 0⟩, .lookasideBuffer, .vmalle1is), (⟨1, 0, 8, 3, 1⟩, .lookasideBuffer, .vae1is),
    (⟨1, 0, 8, 3, 2⟩, .lookasideBuffer, .aside1is), (⟨1, 0, 8, 3, 3⟩, .lookasideBuffer, .vaae1is),
    (⟨1, 0, 8, 3, 5⟩, .lookasideBuffer, .vale1is), (⟨1, 0, 8, 3, 7⟩, .lookasideBuffer, .vaale1is),
    (⟨1, 0, 8, 5, 1⟩, .lookasideBuffer, .rvae1os), (⟨1, 0, 8, 5, 3⟩, .lookasideBuffer, .rvaae1os),
    (⟨1, 0, 8, 5, 5⟩, .lookasideBuffer, .rvale1os),
    (⟨1, 0, 8, 5, 7⟩, .lookasideBuffer, .rvaale1os), (⟨1, 0, 8, 6, 1⟩, .lookasideBuffer, .rvae1),
    (⟨1, 0, 8, 6, 3⟩, .lookasideBuffer, .rvaae1), (⟨1, 0, 8, 6, 5⟩, .lookasideBuffer, .rvale1),
    (⟨1, 0, 8, 6, 7⟩, .lookasideBuffer, .rvaale1), (⟨1, 0, 8, 7, 0⟩, .lookasideBuffer, .vmalle1),
    (⟨1, 0, 8, 7, 1⟩, .lookasideBuffer, .vae1), (⟨1, 0, 8, 7, 2⟩, .lookasideBuffer, .aside1),
    (⟨1, 0, 8, 7, 3⟩, .lookasideBuffer, .vaae1), (⟨1, 0, 8, 7, 5⟩, .lookasideBuffer, .vale1),
    (⟨1, 0, 8, 7, 7⟩, .lookasideBuffer, .vaale1), (⟨1, 3, 7, 4, 1⟩, .dataCache, .zva),
    (⟨1, 3, 7, 5, 1⟩, .instructionCache, .ivau), (⟨1, 3, 7, 10, 1⟩, .dataCache, .cvac),
    (⟨1, 3, 7, 11, 1⟩, .dataCache, .cvau), (⟨1, 3, 7, 12, 1⟩, .dataCache, .cvap),
    (⟨1, 3, 7, 13, 1⟩, .dataCache, .cvadp), (⟨1, 3, 7, 14, 1⟩, .dataCache, .civac),
    (⟨1, 4, 7, 8, 0⟩, .addressLookup, .s1e2r), (⟨1, 4, 7, 8, 1⟩, .addressLookup, .s1e2w),
    (⟨1, 4, 7, 8, 4⟩, .addressLookup, .s12e1r), (⟨1, 4, 7, 8, 5⟩, .addressLookup, .s12e1w),
    (⟨1, 4, 7, 8, 6⟩, .addressLookup, .s12e0r), (⟨1, 4, 7, 8, 7⟩, .addressLookup, .s12e0w),
    (⟨1, 4, 8, 0, 1⟩, .lookasideBuffer, .ipas2e1is),
    (⟨1, 4, 8, 0, 2⟩, .lookasideBuffer, .ripas2e1is),
    (⟨1, 4, 8, 0, 5⟩, .lookasideBuffer, .ipas2le1is),
    (⟨1, 4, 8, 0, 6⟩, .lookasideBuffer, .ripas2le1is),
    (⟨1, 4, 8, 1, 0⟩, .lookasideBuffer, .alle2os), (⟨1, 4, 8, 1, 1⟩, .lookasideBuffer, .vae2os),
    (⟨1, 4, 8, 1, 4⟩, .lookasideBuffer, .alle1os), (⟨1, 4, 8, 1, 5⟩, .lookasideBuffer, .vale2os),
    (⟨1, 4, 8, 1, 6⟩, .lookasideBuffer, .vmalls12e1os),
    (⟨1, 4, 8, 2, 1⟩, .lookasideBuffer, .rvae2is), (⟨1, 4, 8, 2, 5⟩, .lookasideBuffer, .rvale2is),
    (⟨1, 4, 8, 3, 0⟩, .lookasideBuffer, .alle2is), (⟨1, 4, 8, 3, 1⟩, .lookasideBuffer, .vae2is),
    (⟨1, 4, 8, 3, 4⟩, .lookasideBuffer, .alle1is), (⟨1, 4, 8, 3, 5⟩, .lookasideBuffer, .vale2is),
    (⟨1, 4, 8, 3, 6⟩, .lookasideBuffer, .vmalls12e1is),
    (⟨1, 4, 8, 4, 0⟩, .lookasideBuffer, .ipas2e1os),
    (⟨1, 4, 8, 4, 1⟩, .lookasideBuffer, .ipas2e1), (⟨1, 4, 8, 4, 2⟩, .lookasideBuffer, .ripas2e1),
    (⟨1, 4, 8, 4, 3⟩, .lookasideBuffer, .ripas2e1os),
    (⟨1, 4, 8, 4, 4⟩, .lookasideBuffer, .ipas2le1os),
    (⟨1, 4, 8, 4, 5⟩, .lookasideBuffer, .ipas2le1),
    (⟨1, 4, 8, 4, 6⟩, .lookasideBuffer, .ripas2le1),
    (⟨1, 4, 8, 4, 7⟩, .lookasideBuffer, .ripas2le1os),
    (⟨1, 4, 8, 5, 1⟩, .lookasideBuffer, .rvae2os), (⟨1, 4, 8, 5, 5⟩, .lookasideBuffer, .rvale2os),
    (⟨1, 4, 8, 6, 1⟩, .lookasideBuffer, .rvae2), (⟨1, 4, 8, 6, 5⟩, .lookasideBuffer, .rvale2),
    (⟨1, 4, 8, 7, 0⟩, .lookasideBuffer, .alle2), (⟨1, 4, 8, 7, 1⟩, .lookasideBuffer, .vae2),
    (⟨1, 4, 8, 7, 4⟩, .lookasideBuffer, .alle1), (⟨1, 4, 8, 7, 5⟩, .lookasideBuffer, .vale2),
    (⟨1, 4, 8, 7, 6⟩, .lookasideBuffer, .vmalls12e1), (⟨1, 6, 7, 8, 0⟩, .addressLookup, .s1e3r),
    (⟨1, 6, 7, 8, 1⟩, .addressLookup, .s1e3w), (⟨1, 6, 8, 1, 0⟩, .lookasideBuffer, .alle3os),
    (⟨1, 6, 8, 1, 1⟩, .lookasideBuffer, .vae3os), (⟨1, 6, 8, 1, 5⟩, .lookasideBuffer, .vale3os),
    (⟨1, 6, 8, 2, 1⟩, .lookasideBuffer, .rvae3is), (⟨1, 6, 8, 2, 5⟩, .lookasideBuffer, .rvale3is),
    (⟨1, 6, 8, 3, 0⟩, .lookasideBuffer, .alle3is), (⟨1, 6, 8, 3, 1⟩, .lookasideBuffer, .vae3is),
    (⟨1, 6, 8, 3, 5⟩, .lookasideBuffer, .vale3is), (⟨1, 6, 8, 5, 1⟩, .lookasideBuffer, .rvae3os),
    (⟨1, 6, 8, 5, 5⟩, .lookasideBuffer, .rvale3os), (⟨1, 6, 8, 6, 1⟩, .lookasideBuffer, .rvae3),
    (⟨1, 6, 8, 6, 5⟩, .lookasideBuffer, .rvale3), (⟨1, 6, 8, 7, 0⟩, .lookasideBuffer, .alle3),
    (⟨1, 6, 8, 7, 1⟩, .lookasideBuffer, .vae3), (⟨1, 6, 8, 7, 5⟩, .lookasideBuffer, .vale3)]

/-- The register that is read under an encoding. -/
def ofEncoding? (e : SystemEncoding) : Option SystemRegister := readable.lookup e

/-- The register that is written under an encoding. The two directions of the debug data transfer
register share an encoding and have different names. -/
def ofEncodingForWrite? (e : SystemEncoding) : Option SystemRegister :=
  match ofEncoding? e with
  | some .dbgdtrrxEl0 => some .dbgdtrtxEl0
  | r => r

/-- The maintenance operation that a system instruction encodes. -/
def ofMaintenance? (op1 crn crm op2 : Nat) : Option (MaintenanceKind × SystemRegister) :=
  maintained.lookup ⟨1, op1, crn, crm, op2⟩

/-- The named options of memory barriers. -/
def barrierOption? (crm : Nat) : Option SystemRegister :=
  match crm with
  | 1 => some .oshld | 2 => some .oshst | 3 => some .osh | 5 => some .nshld | 6 => some .nshst
  | 7 => some .nsh | 9 => some .ishld | 10 => some .ishst | 11 => some .ish | 13 => some .ld
  | 14 => some .st | 15 => some .sy
  | _ => none

/-- The field of the processor state that an immediate is written to. -/
def stateField? (op1 op2 : Nat) : Option SystemRegister :=
  match op1, op2 with
  | 0, 3 => some .uao | 0, 4 => some .pan | 0, 5 => some .spsel | 3, 1 => some .ssbs
  | 3, 2 => some .dit | 3, 4 => some .tco | 3, 6 => some .daifset | 3, 7 => some .daifclr
  | _, _ => none

end SystemRegister

end A64
