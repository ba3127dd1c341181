/-!
The names that system instructions use: registers, maintenance operations, barrier options and
fields of the processor state. The order of the constructors is the order in which they are listed.
-/

namespace A64

/-- A name in a system instruction. -/
inductive SystemRegister where
  | midrEl1 | mpidrEl1 | revidrEl1 | idPfr0El1 | idPfr1El1 | idDfr0El1 | idAfr0El1 | idMmfr0El1
  | idMmfr1El1 | idMmfr2El1 | idMmfr3El1 | idIsar0El1 | idIsar1El1 | idIsar2El1 | idIsar3El1
  | idIsar4El1 | idIsar5El1 | idMmfr4El1 | idIsar6El1 | mvfr0El1 | mvfr1El1 | mvfr2El1 | idPfr2El1
  | idDfr1El1 | idMmfr5El1 | idAa64pfr0El1 | idAa64pfr1El1 | idAa64zfr0El1 | idAa64smfr0El1
  | idAa64dfr0El1 | idAa64dfr1El1 | idAa64afr0El1 | idAa64afr1El1 | idAa64isar0El1
  | idAa64isar1El1 | idAa64isar2El1 | idAa64mmfr0El1 | idAa64mmfr1El1 | idAa64mmfr2El1 | ccsidrEl1
  | clidrEl1 | ccsidr2El1 | gmidEl1 | aidrEl1 | csselrEl1 | ctrEl0 | dczidEl0 | vpidrEl2
  | vmpidrEl2 | sctlrEl1 | actlrEl1 | cpacrEl1 | rgsrEl1 | gcrEl1 | zcrEl1 | trfcrEl1 | smpriEl1
  | smcrEl1 | sctlrEl2 | actlrEl2 | hcrEl2 | mdcrEl2 | cptrEl2 | hstrEl2 | hfgrtrEl2 | hfgwtrEl2
  | hfgitrEl2 | hacrEl2 | zcrEl2 | trfcrEl2 | sder32El2 | sctlrEl12 | cpacrEl12 | zcrEl12
  | trfcrEl12 | sctlrEl3 | actlrEl3 | scrEl3 | sder32El3 | cptrEl3 | zcrEl3 | mdcrEl3 | ttbr0El1
  | ttbr1El1 | tcrEl1 | apiakeyloEl1 | apiakeyhiEl1 | apibkeyloEl1 | apibkeyhiEl1 | apdakeyloEl1
  | apdakeyhiEl1 | apdbkeyloEl1 | apdbkeyhiEl1 | apgakeyloEl1 | apgakeyhiEl1 | rndr | rndrrs
  | ttbr0El2 | ttbr1El2 | tcrEl2 | vttbrEl2 | vtcrEl2 | vncrEl2 | vsttbrEl2 | vstcrEl2 | ttbr0El12
  | ttbr1El12 | tcrEl12 | ttbr0El3 | tcrEl3 | dacr32El2 | spsrEl1 | elrEl1 | spEl0 | spsel
  | currentel | pan | uao | iccPmrEl1 | svcr | nzcv | daif | dit | ssbs | tco | fpcr | fpsr
  | dspsrEl0 | dlrEl0 | spsrEl2 | elrEl2 | spEl1 | spsrIrq | spsrAbt | spsrUnd | spsrFiq
  | spsrEl12 | elrEl12 | spsrEl3 | elrEl3 | spEl2 | afsr0El1 | afsr1El1 | esrEl1 | erridrEl1
  | errselrEl1 | erxfrEl1 | erxctlrEl1 | erxstatusEl1 | erxaddrEl1 | erxpfgfEl1 | erxpfgctlEl1
  | erxpfgcdnEl1 | erxmisc0El1 | erxmisc1El1 | erxmisc2El1 | erxmisc3El1 | tfsrEl1 | tfsre0El1
  | ifsr32El2 | afsr0El2 | afsr1El2 | esrEl2 | vsesrEl2 | fpexc32El2 | tfsrEl2 | afsr0El12
  | afsr1El12 | esrEl12 | tfsrEl12 | afsr0El3 | afsr1El3 | esrEl3 | tfsrEl3 | farEl1 | farEl2
  | hpfarEl2 | farEl12 | farEl3 | parEl1 | pmscrEl1 | pmsnevfrEl1 | pmsicrEl1 | pmsirrEl1
  | pmsfcrEl1 | pmsevfrEl1 | pmslatfrEl1 | pmsidrEl1 | pmblimitrEl1 | pmbptrEl1 | pmbsrEl1
  | pmbidrEl1 | trblimitrEl1 | trbptrEl1 | trbbaserEl1 | trbsrEl1 | trbmarEl1 | trbtrgEl1
  | trbidrEl1 | pmintensetEl1 | pmintenclrEl1 | pmmirEl1 | pmcrEl0 | pmcntensetEl0 | pmcntenclrEl0
  | pmovsclrEl0 | pmswincEl0 | pmselrEl0 | pmceid0El0 | pmceid1El0 | pmccntrEl0 | pmxevtyperEl0
  | pmxevcntrEl0 | pmuserenrEl0 | pmovssetEl0 | pmscrEl2 | pmscrEl12 | mairEl1 | amairEl1
  | lorsaEl1 | loreaEl1 | lornEl1 | lorcEl1 | mpamidrEl1 | loridEl1 | mpam1El1 | mpam0El1
  | mairEl2 | amairEl2 | mpamhcrEl2 | mpamvpmvEl2 | mpam2El2 | mairEl12 | amairEl12 | mpam1El12
  | mairEl3 | amairEl3 | mpam3El3 | vbarEl1 | rvbarEl1 | rmrEl1 | isrEl1 | disrEl1 | iccIar0El1
  | iccEoir0El1 | iccHppir0El1 | iccBpr0El1 | iccAp0r0El1 | iccAp0r1El1 | iccAp0r2El1
  | iccAp0r3El1 | iccAp1r0El1 | iccAp1r1El1 | iccAp1r2El1 | iccAp1r3El1 | iccNmiar1El1 | iccDirEl1
  | iccRprEl1 | iccSgi1rEl1 | iccAsgi1rEl1 | iccSgi0rEl1 | iccIar1El1 | iccEoir1El1 | iccHppir1El1
  | iccBpr1El1 | iccCtlrEl1 | iccSreEl1 | iccIgrpen0El1 | iccIgrpen1El1 | vbarEl2 | rvbarEl2
  | rmrEl2 | vdisrEl2 | ichAp0r0El2 | ichAp0r1El2 | ichAp0r2El2 | ichAp0r3El2 | ichAp1r0El2
  | ichAp1r1El2 | ichAp1r2El2 | ichAp1r3El2 | iccSreEl2 | ichHcrEl2 | ichVtrEl2 | ichMisrEl2
  | ichEisrEl2 | ichElrsrEl2 | ichVmcrEl2 | vbarEl12 | vbarEl3 | rvbarEl3 | rmrEl3 | iccCtlrEl3
  | iccSreEl3 | iccIgrpen1El3 | contextidrEl1 | tpidrEl1 | accdataEl1 | scxtnumEl1 | tpidrEl0
  | tpidrroEl0 | tpidr2El0 | scxtnumEl0 | amcrEl0 | amcfgrEl0 | amcgcrEl0 | amuserenrEl0
  | amcntenclr0El0 | amcntenset0El0 | amcg1idrEl0 | amcntenclr1El0 | amcntenset1El0
  | contextidrEl2 | tpidrEl2 | scxtnumEl2 | contextidrEl12 | scxtnumEl12 | tpidrEl3 | scxtnumEl3
  | cntkctlEl1 | cntfrqEl0 | cntpctEl0 | cntvctEl0 | cntpctssEl0 | cntvctssEl0 | cntpTvalEl0
  | cntpCtlEl0 | cntpCvalEl0 | cntvTvalEl0 | cntvCtlEl0 | cntvCvalEl0 | pmccfiltrEl0 | cntvoffEl2
  | cntpoffEl2 | cnthctlEl2 | cnthpTvalEl2 | cnthpCtlEl2 | cnthpCvalEl2 | cnthvTvalEl2
  | cnthvCtlEl2 | cnthvCvalEl2 | cnthvsTvalEl2 | cnthvsCtlEl2 | cnthvsCvalEl2 | cnthpsTvalEl2
  | cnthpsCtlEl2 | cnthpsCvalEl2 | cntkctlEl12 | cntpTvalEl02 | cntpCtlEl02 | cntpCvalEl02
  | cntvTvalEl02 | cntvCtlEl02 | cntvCvalEl02 | cntpsTvalEl1 | cntpsCtlEl1 | cntpsCvalEl1
  | ichLr0El2 | amevcntr00El0 | amevtyper00El0 | amevcntr10El0 | amevtyper10El0 | ichLr1El2
  | amevcntr01El0 | amevtyper01El0 | amevcntr11El0 | amevtyper11El0 | ichLr2El2 | amevcntr02El0
  | amevtyper02El0 | amevcntr12El0 | amevtyper12El0 | ichLr3El2 | amevcntr03El0 | amevtyper03El0
  | amevcntr13El0 | amevtyper13El0 | ichLr4El2 | amevcntr04El0 | amevtyper04El0 | amevcntr14El0
  | amevtyper14El0 | ichLr5El2 | amevcntr05El0 | amevtyper05El0 | amevcntr15El0 | amevtyper15El0
  | ichLr6El2 | amevcntr06El0 | amevtyper06El0 | amevcntr16El0 | amevtyper16El0 | ichLr7El2
  | amevcntr07El0 | amevtyper07El0 | amevcntr17El0 | amevtyper17El0 | ichLr8El2 | amevcntr08El0
  | amevtyper08El0 | amevcntr18El0 | amevtyper18El0 | ichLr9El2 | amevcntr09El0 | amevtyper09El0
  | amevcntr19El0 | amevtyper19El0 | ichLr10El2 | amevcntr010El0 | amevtyper010El0
  | amevcntr110El0 | amevtyper110El0 | ichLr11El2 | amevcntr011El0 | amevtyper011El0
  | amevcntr111El0 | amevtyper111El0 | ichLr12El2 | amevcntr012El0 | amevtyper012El0
  | amevcntr112El0 | amevtyper112El0 | ichLr13El2 | amevcntr013El0 | amevtyper013El0
  | amevcntr113El0 | amevtyper113El0 | ichLr14El2 | amevcntr014El0 | amevtyper014El0
  | amevcntr114El0 | amevtyper114El0 | ichLr15El2 | amevcntr015El0 | amevtyper015El0
  | amevcntr115El0 | amevtyper115El0 | pmevcntr0El0 | pmevtyper0El0 | pmevcntr1El0 | pmevtyper1El0
  | pmevcntr2El0 | pmevtyper2El0 | pmevcntr3El0 | pmevtyper3El0 | pmevcntr4El0 | pmevtyper4El0
  | pmevcntr5El0 | pmevtyper5El0 | pmevcntr6El0 | pmevtyper6El0 | pmevcntr7El0 | pmevtyper7El0
  | pmevcntr8El0 | pmevtyper8El0 | pmevcntr9El0 | pmevtyper9El0 | pmevcntr10El0 | pmevtyper10El0
  | pmevcntr11El0 | pmevtyper11El0 | pmevcntr12El0 | pmevtyper12El0 | pmevcntr13El0
  | pmevtyper13El0 | pmevcntr14El0 | pmevtyper14El0 | pmevcntr15El0 | pmevtyper15El0
  | pmevcntr16El0 | pmevtyper16El0 | pmevcntr17El0 | pmevtyper17El0 | pmevcntr18El0
  | pmevtyper18El0 | pmevcntr19El0 | pmevtyper19El0 | pmevcntr20El0 | pmevtyper20El0
  | pmevcntr21El0 | pmevtyper21El0 | pmevcntr22El0 | pmevtyper22El0 | pmevcntr23El0
  | pmevtyper23El0 | pmevcntr24El0 | pmevtyper24El0 | pmevcntr25El0 | pmevtyper25El0
  | pmevcntr26El0 | pmevtyper26El0 | pmevcntr27El0 | pmevtyper27El0 | pmevcntr28El0
  | pmevtyper28El0 | pmevcntr29El0 | pmevtyper29El0 | pmevcntr30El0 | pmevtyper30El0 | osdtrrxEl1
  | mdccintEl1 | mdscrEl1 | osdtrtxEl1 | oseccrEl1 | mdrarEl1 | oslarEl1 | oslsrEl1 | osdlrEl1
  | dbgprcrEl1 | dbgclaimsetEl1 | dbgclaimclrEl1 | dbgauthstatusEl1 | mdccsrEl0 | dbgdtrEl0
  | dbgdtrrxEl0 | dbgvcr32El2 | trcprgctlr | trcstatr | trcconfigr | trctraceidr | dbgbvr0El1
  | dbgbcr0El1 | dbgwvr0El1 | dbgwcr0El1 | dbgbvr1El1 | dbgbcr1El1 | dbgwvr1El1 | dbgwcr1El1
  | dbgbvr2El1 | dbgbcr2El1 | dbgwvr2El1 | dbgwcr2El1 | dbgbvr3El1 | dbgbcr3El1 | dbgwvr3El1
  | dbgwcr3El1 | dbgbvr4El1 | dbgbcr4El1 | dbgwvr4El1 | dbgwcr4El1 | dbgbvr5El1 | dbgbcr5El1
  | dbgwvr5El1 | dbgwcr5El1 | dbgbvr6El1 | dbgbcr6El1 | dbgwvr6El1 | dbgwcr6El1 | dbgbvr7El1
  | dbgbcr7El1 | dbgwvr7El1 | dbgwcr7El1 | dbgbvr8El1 | dbgbcr8El1 | dbgwvr8El1 | dbgwcr8El1
  | dbgbvr9El1 | dbgbcr9El1 | dbgwvr9El1 | dbgwcr9El1 | dbgbvr10El1 | dbgbcr10El1 | dbgwvr10El1
  | dbgwcr10El1 | dbgbvr11El1 | dbgbcr11El1 | dbgwvr11El1 | dbgwcr11El1 | dbgbvr12El1
  | dbgbcr12El1 | dbgwvr12El1 | dbgwcr12El1 | dbgbvr13El1 | dbgbcr13El1 | dbgwvr13El1
  | dbgwcr13El1 | dbgbvr14El1 | dbgbcr14El1 | dbgwvr14El1 | dbgwcr14El1 | dbgbvr15El1
  | dbgbcr15El1 | dbgwvr15El1 | dbgwcr15El1 | dbgdtrtxEl0 | s1e1r | s1e1w | s1e0r | s1e0w | s1e1rp
  | s1e1wp | s1e2r | s1e2w | s12e1r | s12e1w | s12e0r | s12e0w | s1e3r | s1e3w | zva | ivac | isw
  | cvac | csw | cvau | civac | cisw | cvap | cvadp | ialluis | iallu | ivau | vmalle1is | vae1is
  | aside1is | vaae1is | vale1is | vaale1is | vmalle1 | vae1 | aside1 | vaae1 | vale1 | vaale1
  | vmalle1os | vae1os | aside1os | vaae1os | vale1os | vaale1os | rvae1is | rvaae1is | rvale1is
  | rvaale1is | rvae1os | rvaae1os | rvale1os | rvaale1os | rvae1 | rvaae1 | rvale1 | rvaale1
  | ipas2e1is | ripas2e1is | ipas2le1is | ripas2le1is | alle2os | vae2os | alle1os | vale2os
  | vmalls12e1os | rvae2is | rvale2is | alle2is | vae2is | alle1is | vale2is | vmalls12e1is
  | ipas2e1os | ipas2e1 | ripas2e1 | ripas2e1os | ipas2le1os | ipas2le1 | ripas2le1 | ripas2le1os
  | rvae2os | rvale2os | rvae2 | rvale2 | alle2 | vae2 | alle1 | vale2 | vmalls12e1 | alle3os
  | vae3os | vale3os | rvae3is | rvale3is | alle3is | vae3is | vale3is | rvae3os | rvale3os
  | rvae3 | rvale3 | alle3 | vae3 | vale3 | oshld | oshst | osh | nshld | nshst | nsh | ishld
  | ishst | ish | ld | st | sy | daifset | daifclr | csync | c | j | jc
  deriving DecidableEq

namespace SystemRegister

/-- The number of names. -/
def count : Nat := 708

/-- Every name, in order. -/
def all : List SystemRegister := (List.range count).map ofNat

/-- The place of a name in the list of all. -/
def index (r : SystemRegister) : Nat := r.ctorIdx

end SystemRegister

end A64
