import A64.Symbol
import A64.SystemRegister.Basic

/-!
The printed names of system registers and the symbols under which reports record them.
-/

namespace A64.SystemRegister

/-- The printed name. -/
def name : SystemRegister → String
  | .midrEl1 => "midr_el1" | .mpidrEl1 => "mpidr_el1" | .revidrEl1 => "revidr_el1"
  | .idPfr0El1 => "id_pfr0_el1" | .idPfr1El1 => "id_pfr1_el1" | .idDfr0El1 => "id_dfr0_el1"
  | .idAfr0El1 => "id_afr0_el1" | .idMmfr0El1 => "id_mmfr0_el1" | .idMmfr1El1 => "id_mmfr1_el1"
  | .idMmfr2El1 => "id_mmfr2_el1" | .idMmfr3El1 => "id_mmfr3_el1" | .idIsar0El1 => "id_isar0_el1"
  | .idIsar1El1 => "id_isar1_el1" | .idIsar2El1 => "id_isar2_el1" | .idIsar3El1 => "id_isar3_el1"
  | .idIsar4El1 => "id_isar4_el1" | .idIsar5El1 => "id_isar5_el1" | .idMmfr4El1 => "id_mmfr4_el1"
  | .idIsar6El1 => "id_isar6_el1" | .mvfr0El1 => "mvfr0_el1" | .mvfr1El1 => "mvfr1_el1"
  | .mvfr2El1 => "mvfr2_el1" | .idPfr2El1 => "id_pfr2_el1" | .idDfr1El1 => "id_dfr1_el1"
  | .idMmfr5El1 => "id_mmfr5_el1" | .idAa64pfr0El1 => "id_aa64pfr0_el1"
  | .idAa64pfr1El1 => "id_aa64pfr1_el1" | .idAa64zfr0El1 => "id_aa64zfr0_el1"
  | .idAa64smfr0El1 => "id_aa64smfr0_el1" | .idAa64dfr0El1 => "id_aa64dfr0_el1"
  | .idAa64dfr1El1 => "id_aa64dfr1_el1" | .idAa64afr0El1 => "id_aa64afr0_el1"
  | .idAa64afr1El1 => "id_aa64afr1_el1" | .idAa64isar0El1 => "id_aa64isar0_el1"
  | .idAa64isar1El1 => "id_aa64isar1_el1" | .idAa64isar2El1 => "id_aa64isar2_el1"
  | .idAa64mmfr0El1 => "id_aa64mmfr0_el1" | .idAa64mmfr1El1 => "id_aa64mmfr1_el1"
  | .idAa64mmfr2El1 => "id_aa64mmfr2_el1" | .ccsidrEl1 => "ccsidr_el1" | .clidrEl1 => "clidr_el1"
  | .ccsidr2El1 => "ccsidr2_el1" | .gmidEl1 => "gmid_el1" | .aidrEl1 => "aidr_el1"
  | .csselrEl1 => "csselr_el1" | .ctrEl0 => "ctr_el0" | .dczidEl0 => "dczid_el0"
  | .vpidrEl2 => "vpidr_el2" | .vmpidrEl2 => "vmpidr_el2" | .sctlrEl1 => "sctlr_el1"
  | .actlrEl1 => "actlr_el1" | .cpacrEl1 => "cpacr_el1" | .rgsrEl1 => "rgsr_el1"
  | .gcrEl1 => "gcr_el1" | .zcrEl1 => "zcr_el1" | .trfcrEl1 => "trfcr_el1"
  | .smpriEl1 => "smpri_el1" | .smcrEl1 => "smcr_el1" | .sctlrEl2 => "sctlr_el2"
  | .actlrEl2 => "actlr_el2" | .hcrEl2 => "hcr_el2" | .mdcrEl2 => "mdcr_el2"
  | .cptrEl2 => "cptr_el2" | .hstrEl2 => "hstr_el2" | .hfgrtrEl2 => "hfgrtr_el2"
  | .hfgwtrEl2 => "hfgwtr_el2" | .hfgitrEl2 => "hfgitr_el2" | .hacrEl2 => "hacr_el2"
  | .zcrEl2 => "zcr_el2" | .trfcrEl2 => "trfcr_el2" | .sder32El2 => "sder32_el2"
  | .sctlrEl12 => "sctlr_el12" | .cpacrEl12 => "cpacr_el12" | .zcrEl12 => "zcr_el12"
  | .trfcrEl12 => "trfcr_el12" | .sctlrEl3 => "sctlr_el3" | .actlrEl3 => "actlr_el3"
  | .scrEl3 => "scr_el3" | .sder32El3 => "sder32_el3" | .cptrEl3 => "cptr_el3"
  | .zcrEl3 => "zcr_el3" | .mdcrEl3 => "mdcr_el3" | .ttbr0El1 => "ttbr0_el1"
  | .ttbr1El1 => "ttbr1_el1" | .tcrEl1 => "tcr_el1" | .apiakeyloEl1 => "apiakeylo_el1"
  | .apiakeyhiEl1 => "apiakeyhi_el1" | .apibkeyloEl1 => "apibkeylo_el1"
  | .apibkeyhiEl1 => "apibkeyhi_el1" | .apdakeyloEl1 => "apdakeylo_el1"
  | .apdakeyhiEl1 => "apdakeyhi_el1" | .apdbkeyloEl1 => "apdbkeylo_el1"
  | .apdbkeyhiEl1 => "apdbkeyhi_el1" | .apgakeyloEl1 => "apgakeylo_el1"
  | .apgakeyhiEl1 => "apgakeyhi_el1" | .rndr => "rndr" | .rndrrs => "rndrrs"
  | .ttbr0El2 => "ttbr0_el2" | .ttbr1El2 => "ttbr1_el2" | .tcrEl2 => "tcr_el2"
  | .vttbrEl2 => "vttbr_el2" | .vtcrEl2 => "vtcr_el2" | .vncrEl2 => "vncr_el2"
  | .vsttbrEl2 => "vsttbr_el2" | .vstcrEl2 => "vstcr_el2" | .ttbr0El12 => "ttbr0_el12"
  | .ttbr1El12 => "ttbr1_el12" | .tcrEl12 => "tcr_el12" | .ttbr0El3 => "ttbr0_el3"
  | .tcrEl3 => "tcr_el3" | .dacr32El2 => "dacr32_el2" | .spsrEl1 => "spsr_el1"
  | .elrEl1 => "elr_el1" | .spEl0 => "sp_el0" | .spsel => "spsel" | .currentel => "currentel"
  | .pan => "pan" | .uao => "uao" | .iccPmrEl1 => "icc_pmr_el1" | .svcr => "svcr"
  | .nzcv => "nzcv" | .daif => "daif" | .dit => "dit" | .ssbs => "ssbs" | .tco => "tco"
  | .fpcr => "fpcr" | .fpsr => "fpsr" | .dspsrEl0 => "dspsr_el0" | .dlrEl0 => "dlr_el0"
  | .spsrEl2 => "spsr_el2" | .elrEl2 => "elr_el2" | .spEl1 => "sp_el1" | .spsrIrq => "spsr_irq"
  | .spsrAbt => "spsr_abt" | .spsrUnd => "spsr_und" | .spsrFiq => "spsr_fiq"
  | .spsrEl12 => "spsr_el12" | .elrEl12 => "elr_el12" | .spsrEl3 => "spsr_el3"
  | .elrEl3 => "elr_el3" | .spEl2 => "sp_el2" | .afsr0El1 => "afsr0_el1"
  | .afsr1El1 => "afsr1_el1" | .esrEl1 => "esr_el1" | .erridrEl1 => "erridr_el1"
  | .errselrEl1 => "errselr_el1" | .erxfrEl1 => "erxfr_el1" | .erxctlrEl1 => "erxctlr_el1"
  | .erxstatusEl1 => "erxstatus_el1" | .erxaddrEl1 => "erxaddr_el1" | .erxpfgfEl1 => "erxpfgf_el1"
  | .erxpfgctlEl1 => "erxpfgctl_el1" | .erxpfgcdnEl1 => "erxpfgcdn_el1"
  | .erxmisc0El1 => "erxmisc0_el1" | .erxmisc1El1 => "erxmisc1_el1"
  | .erxmisc2El1 => "erxmisc2_el1" | .erxmisc3El1 => "erxmisc3_el1" | .tfsrEl1 => "tfsr_el1"
  | .tfsre0El1 => "tfsre0_el1" | .ifsr32El2 => "ifsr32_el2" | .afsr0El2 => "afsr0_el2"
  | .afsr1El2 => "afsr1_el2" | .esrEl2 => "esr_el2" | .vsesrEl2 => "vsesr_el2"
  | .fpexc32El2 => "fpexc32_el2" | .tfsrEl2 => "tfsr_el2" | .afsr0El12 => "afsr0_el12"
  | .afsr1El12 => "afsr1_el12" | .esrEl12 => "esr_el12" | .tfsrEl12 => "tfsr_el12"
  | .afsr0El3 => "afsr0_el3" | .afsr1El3 => "afsr1_el3" | .esrEl3 => "esr_el3"
  | .tfsrEl3 => "tfsr_el3" | .farEl1 => "far_el1" | .farEl2 => "far_el2"
  | .hpfarEl2 => "hpfar_el2" | .farEl12 => "far_el12" | .farEl3 => "far_el3"
  | .parEl1 => "par_el1" | .pmscrEl1 => "pmscr_el1" | .pmsnevfrEl1 => "pmsnevfr_el1"
  | .pmsicrEl1 => "pmsicr_el1" | .pmsirrEl1 => "pmsirr_el1" | .pmsfcrEl1 => "pmsfcr_el1"
  | .pmsevfrEl1 => "pmsevfr_el1" | .pmslatfrEl1 => "pmslatfr_el1" | .pmsidrEl1 => "pmsidr_el1"
  | .pmblimitrEl1 => "pmblimitr_el1" | .pmbptrEl1 => "pmbptr_el1" | .pmbsrEl1 => "pmbsr_el1"
  | .pmbidrEl1 => "pmbidr_el1" | .trblimitrEl1 => "trblimitr_el1" | .trbptrEl1 => "trbptr_el1"
  | .trbbaserEl1 => "trbbaser_el1" | .trbsrEl1 => "trbsr_el1" | .trbmarEl1 => "trbmar_el1"
  | .trbtrgEl1 => "trbtrg_el1" | .trbidrEl1 => "trbidr_el1" | .pmintensetEl1 => "pmintenset_el1"
  | .pmintenclrEl1 => "pmintenclr_el1" | .pmmirEl1 => "pmmir_el1" | .pmcrEl0 => "pmcr_el0"
  | .pmcntensetEl0 => "pmcntenset_el0" | .pmcntenclrEl0 => "pmcntenclr_el0"
  | .pmovsclrEl0 => "pmovsclr_el0" | .pmswincEl0 => "pmswinc_el0" | .pmselrEl0 => "pmselr_el0"
  | .pmceid0El0 => "pmceid0_el0" | .pmceid1El0 => "pmceid1_el0" | .pmccntrEl0 => "pmccntr_el0"
  | .pmxevtyperEl0 => "pmxevtyper_el0" | .pmxevcntrEl0 => "pmxevcntr_el0"
  | .pmuserenrEl0 => "pmuserenr_el0" | .pmovssetEl0 => "pmovsset_el0" | .pmscrEl2 => "pmscr_el2"
  | .pmscrEl12 => "pmscr_el12" | .mairEl1 => "mair_el1" | .amairEl1 => "amair_el1"
  | .lorsaEl1 => "lorsa_el1" | .loreaEl1 => "lorea_el1" | .lornEl1 => "lorn_el1"
  | .lorcEl1 => "lorc_el1" | .mpamidrEl1 => "mpamidr_el1" | .loridEl1 => "lorid_el1"
  | .mpam1El1 => "mpam1_el1" | .mpam0El1 => "mpam0_el1" | .mairEl2 => "mair_el2"
  | .amairEl2 => "amair_el2" | .mpamhcrEl2 => "mpamhcr_el2" | .mpamvpmvEl2 => "mpamvpmv_el2"
  | .mpam2El2 => "mpam2_el2" | .mairEl12 => "mair_el12" | .amairEl12 => "amair_el12"
  | .mpam1El12 => "mpam1_el12" | .mairEl3 => "mair_el3" | .amairEl3 => "amair_el3"
  | .mpam3El3 => "mpam3_el3" | .vbarEl1 => "vbar_el1" | .rvbarEl1 => "rvbar_el1"
  | .rmrEl1 => "rmr_el1" | .isrEl1 => "isr_el1" | .disrEl1 => "disr_el1"
  | .iccIar0El1 => "icc_iar0_el1" | .iccEoir0El1 => "icc_eoir0_el1"
  | .iccHppir0El1 => "icc_hppir0_el1" | .iccBpr0El1 => "icc_bpr0_el1"
  | .iccAp0r0El1 => "icc_ap0r0_el1" | .iccAp0r1El1 => "icc_ap0r1_el1"
  | .iccAp0r2El1 => "icc_ap0r2_el1" | .iccAp0r3El1 => "icc_ap0r3_el1"
  | .iccAp1r0El1 => "icc_ap1r0_el1" | .iccAp1r1El1 => "icc_ap1r1_el1"
  | .iccAp1r2El1 => "icc_ap1r2_el1" | .iccAp1r3El1 => "icc_ap1r3_el1"
  | .iccNmiar1El1 => "icc_nmiar1_el1" | .iccDirEl1 => "icc_dir_el1" | .iccRprEl1 => "icc_rpr_el1"
  | .iccSgi1rEl1 => "icc_sgi1r_el1" | .iccAsgi1rEl1 => "icc_asgi1r_el1"
  | .iccSgi0rEl1 => "icc_sgi0r_el1" | .iccIar1El1 => "icc_iar1_el1"
  | .iccEoir1El1 => "icc_eoir1_el1" | .iccHppir1El1 => "icc_hppir1_el1"
  | .iccBpr1El1 => "icc_bpr1_el1" | .iccCtlrEl1 => "icc_ctlr_el1" | .iccSreEl1 => "icc_sre_el1"
  | .iccIgrpen0El1 => "icc_igrpen0_el1" | .iccIgrpen1El1 => "icc_igrpen1_el1"
  | .vbarEl2 => "vbar_el2" | .rvbarEl2 => "rvbar_el2" | .rmrEl2 => "rmr_el2"
  | .vdisrEl2 => "vdisr_el2" | .ichAp0r0El2 => "ich_ap0r0_el2" | .ichAp0r1El2 => "ich_ap0r1_el2"
  | .ichAp0r2El2 => "ich_ap0r2_el2" | .ichAp0r3El2 => "ich_ap0r3_el2"
  | .ichAp1r0El2 => "ich_ap1r0_el2" | .ichAp1r1El2 => "ich_ap1r1_el2"
  | .ichAp1r2El2 => "ich_ap1r2_el2" | .ichAp1r3El2 => "ich_ap1r3_el2"
  | .iccSreEl2 => "icc_sre_el2" | .ichHcrEl2 => "ich_hcr_el2" | .ichVtrEl2 => "ich_vtr_el2"
  | .ichMisrEl2 => "ich_misr_el2" | .ichEisrEl2 => "ich_eisr_el2"
  | .ichElrsrEl2 => "ich_elrsr_el2" | .ichVmcrEl2 => "ich_vmcr_el2" | .vbarEl12 => "vbar_el12"
  | .vbarEl3 => "vbar_el3" | .rvbarEl3 => "rvbar_el3" | .rmrEl3 => "rmr_el3"
  | .iccCtlrEl3 => "icc_ctlr_el3" | .iccSreEl3 => "icc_sre_el3"
  | .iccIgrpen1El3 => "icc_igrpen1_el3" | .contextidrEl1 => "contextidr_el1"
  | .tpidrEl1 => "tpidr_el1" | .accdataEl1 => "accdata_el1" | .scxtnumEl1 => "scxtnum_el1"
  | .tpidrEl0 => "tpidr_el0" | .tpidrroEl0 => "tpidrro_el0" | .tpidr2El0 => "tpidr2_el0"
  | .scxtnumEl0 => "scxtnum_el0" | .amcrEl0 => "amcr_el0" | .amcfgrEl0 => "amcfgr_el0"
  | .amcgcrEl0 => "amcgcr_el0" | .amuserenrEl0 => "amuserenr_el0"
  | .amcntenclr0El0 => "amcntenclr0_el0" | .amcntenset0El0 => "amcntenset0_el0"
  | .amcg1idrEl0 => "amcg1idr_el0" | .amcntenclr1El0 => "amcntenclr1_el0"
  | .amcntenset1El0 => "amcntenset1_el0" | .contextidrEl2 => "contextidr_el2"
  | .tpidrEl2 => "tpidr_el2" | .scxtnumEl2 => "scxtnum_el2" | .contextidrEl12 => "contextidr_el12"
  | .scxtnumEl12 => "scxtnum_el12" | .tpidrEl3 => "tpidr_el3" | .scxtnumEl3 => "scxtnum_el3"
  | .cntkctlEl1 => "cntkctl_el1" | .cntfrqEl0 => "cntfrq_el0" | .cntpctEl0 => "cntpct_el0"
  | .cntvctEl0 => "cntvct_el0" | .cntpctssEl0 => "cntpctss_el0" | .cntvctssEl0 => "cntvctss_el0"
  | .cntpTvalEl0 => "cntp_tval_el0" | .cntpCtlEl0 => "cntp_ctl_el0"
  | .cntpCvalEl0 => "cntp_cval_el0" | .cntvTvalEl0 => "cntv_tval_el0"
  | .cntvCtlEl0 => "cntv_ctl_el0" | .cntvCvalEl0 => "cntv_cval_el0"
  | .pmccfiltrEl0 => "pmccfiltr_el0" | .cntvoffEl2 => "cntvoff_el2" | .cntpoffEl2 => "cntpoff_el2"
  | .cnthctlEl2 => "cnthctl_el2" | .cnthpTvalEl2 => "cnthp_tval_el2"
  | .cnthpCtlEl2 => "cnthp_ctl_el2" | .cnthpCvalEl2 => "cnthp_cval_el2"
  | .cnthvTvalEl2 => "cnthv_tval_el2" | .cnthvCtlEl2 => "cnthv_ctl_el2"
  | .cnthvCvalEl2 => "cnthv_cval_el2" | .cnthvsTvalEl2 => "cnthvs_tval_el2"
  | .cnthvsCtlEl2 => "cnthvs_ctl_el2" | .cnthvsCvalEl2 => "cnthvs_cval_el2"
  | .cnthpsTvalEl2 => "cnthps_tval_el2" | .cnthpsCtlEl2 => "cnthps_ctl_el2"
  | .cnthpsCvalEl2 => "cnthps_cval_el2" | .cntkctlEl12 => "cntkctl_el12"
  | .cntpTvalEl02 => "cntp_tval_el02" | .cntpCtlEl02 => "cntp_ctl_el02"
  | .cntpCvalEl02 => "cntp_cval_el02" | .cntvTvalEl02 => "cntv_tval_el02"
  | .cntvCtlEl02 => "cntv_ctl_el02" | .cntvCvalEl02 => "cntv_cval_el02"
  | .cntpsTvalEl1 => "cntps_tval_el1" | .cntpsCtlEl1 => "cntps_ctl_el1"
  | .cntpsCvalEl1 => "cntps_cval_el1" | .ichLr0El2 => "ich_lr0_el2"
  | .amevcntr00El0 => "amevcntr00_el0" | .amevtyper00El0 => "amevtyper00_el0"
  | .amevcntr10El0 => "amevcntr10_el0" | .amevtyper10El0 => "amevtyper10_el0"
  | .ichLr1El2 => "ich_lr1_el2" | .amevcntr01El0 => "amevcntr01_el0"
  | .amevtyper01El0 => "amevtyper01_el0" | .amevcntr11El0 => "amevcntr11_el0"
  | .amevtyper11El0 => "amevtyper11_el0" | .ichLr2El2 => "ich_lr2_el2"
  | .amevcntr02El0 => "amevcntr02_el0" | .amevtyper02El0 => "amevtyper02_el0"
  | .amevcntr12El0 => "amevcntr12_el0" | .amevtyper12El0 => "amevtyper12_el0"
  | .ichLr3El2 => "ich_lr3_el2" | .amevcntr03El0 => "amevcntr03_el0"
  | .amevtyper03El0 => "amevtyper03_el0" | .amevcntr13El0 => "amevcntr13_el0"
  | .amevtyper13El0 => "amevtyper13_el0" | .ichLr4El2 => "ich_lr4_el2"
  | .amevcntr04El0 => "amevcntr04_el0" | .amevtyper04El0 => "amevtyper04_el0"
  | .amevcntr14El0 => "amevcntr14_el0" | .amevtyper14El0 => "amevtyper14_el0"
  | .ichLr5El2 => "ich_lr5_el2" | .amevcntr05El0 => "amevcntr05_el0"
  | .amevtyper05El0 => "amevtyper05_el0" | .amevcntr15El0 => "amevcntr15_el0"
  | .amevtyper15El0 => "amevtyper15_el0" | .ichLr6El2 => "ich_lr6_el2"
  | .amevcntr06El0 => "amevcntr06_el0" | .amevtyper06El0 => "amevtyper06_el0"
  | .amevcntr16El0 => "amevcntr16_el0" | .amevtyper16El0 => "amevtyper16_el0"
  | .ichLr7El2 => "ich_lr7_el2" | .amevcntr07El0 => "amevcntr07_el0"
  | .amevtyper07El0 => "amevtyper07_el0" | .amevcntr17El0 => "amevcntr17_el0"
  | .amevtyper17El0 => "amevtyper17_el0" | .ichLr8El2 => "ich_lr8_el2"
  | .amevcntr08El0 => "amevcntr08_el0" | .amevtyper08El0 => "amevtyper08_el0"
  | .amevcntr18El0 => "amevcntr18_el0" | .amevtyper18El0 => "amevtyper18_el0"
  | .ichLr9El2 => "ich_lr9_el2" | .amevcntr09El0 => "amevcntr09_el0"
  | .amevtyper09El0 => "amevtyper09_el0" | .amevcntr19El0 => "amevcntr19_el0"
  | .amevtyper19El0 => "amevtyper19_el0" | .ichLr10El2 => "ich_lr10_el2"
  | .amevcntr010El0 => "amevcntr010_el0" | .amevtyper010El0 => "amevtyper010_el0"
  | .amevcntr110El0 => "amevcntr110_el0" | .amevtyper110El0 => "amevtyper110_el0"
  | .ichLr11El2 => "ich_lr11_el2" | .amevcntr011El0 => "amevcntr011_el0"
  | .amevtyper011El0 => "amevtyper011_el0" | .amevcntr111El0 => "amevcntr111_el0"
  | .amevtyper111El0 => "amevtyper111_el0" | .ichLr12El2 => "ich_lr12_el2"
  | .amevcntr012El0 => "amevcntr012_el0" | .amevtyper012El0 => "amevtyper012_el0"
  | .amevcntr112El0 => "amevcntr112_el0" | .amevtyper112El0 => "amevtyper112_el0"
  | .ichLr13El2 => "ich_lr13_el2" | .amevcntr013El0 => "amevcntr013_el0"
  | .amevtyper013El0 => "amevtyper013_el0" | .amevcntr113El0 => "amevcntr113_el0"
  | .amevtyper113El0 => "amevtyper113_el0" | .ichLr14El2 => "ich_lr14_el2"
  | .amevcntr014El0 => "amevcntr014_el0" | .amevtyper014El0 => "amevtyper014_el0"
  | .amevcntr114El0 => "amevcntr114_el0" | .amevtyper114El0 => "amevtyper114_el0"
  | .ichLr15El2 => "ich_lr15_el2" | .amevcntr015El0 => "amevcntr015_el0"
  | .amevtyper015El0 => "amevtyper015_el0" | .amevcntr115El0 => "amevcntr115_el0"
  | .amevtyper115El0 => "amevtyper115_el0" | .pmevcntr0El0 => "pmevcntr0_el0"
  | .pmevtyper0El0 => "pmevtyper0_el0" | .pmevcntr1El0 => "pmevcntr1_el0"
  | .pmevtyper1El0 => "pmevtyper1_el0" | .pmevcntr2El0 => "pmevcntr2_el0"
  | .pmevtyper2El0 => "pmevtyper2_el0" | .pmevcntr3El0 => "pmevcntr3_el0"
  | .pmevtyper3El0 => "pmevtyper3_el0" | .pmevcntr4El0 => "pmevcntr4_el0"
  | .pmevtyper4El0 => "pmevtyper4_el0" | .pmevcntr5El0 => "pmevcntr5_el0"
  | .pmevtyper5El0 => "pmevtyper5_el0" | .pmevcntr6El0 => "pmevcntr6_el0"
  | .pmevtyper6El0 => "pmevtyper6_el0" | .pmevcntr7El0 => "pmevcntr7_el0"
  | .pmevtyper7El0 => "pmevtyper7_el0" | .pmevcntr8El0 => "pmevcntr8_el0"
  | .pmevtyper8El0 => "pmevtyper8_el0" | .pmevcntr9El0 => "pmevcntr9_el0"
  | .pmevtyper9El0 => "pmevtyper9_el0" | .pmevcntr10El0 => "pmevcntr10_el0"
  | .pmevtyper10El0 => "pmevtyper10_el0" | .pmevcntr11El0 => "pmevcntr11_el0"
  | .pmevtyper11El0 => "pmevtyper11_el0" | .pmevcntr12El0 => "pmevcntr12_el0"
  | .pmevtyper12El0 => "pmevtyper12_el0" | .pmevcntr13El0 => "pmevcntr13_el0"
  | .pmevtyper13El0 => "pmevtyper13_el0" | .pmevcntr14El0 => "pmevcntr14_el0"
  | .pmevtyper14El0 => "pmevtyper14_el0" | .pmevcntr15El0 => "pmevcntr15_el0"
  | .pmevtyper15El0 => "pmevtyper15_el0" | .pmevcntr16El0 => "pmevcntr16_el0"
  | .pmevtyper16El0 => "pmevtyper16_el0" | .pmevcntr17El0 => "pmevcntr17_el0"
  | .pmevtyper17El0 => "pmevtyper17_el0" | .pmevcntr18El0 => "pmevcntr18_el0"
  | .pmevtyper18El0 => "pmevtyper18_el0" | .pmevcntr19El0 => "pmevcntr19_el0"
  | .pmevtyper19El0 => "pmevtyper19_el0" | .pmevcntr20El0 => "pmevcntr20_el0"
  | .pmevtyper20El0 => "pmevtyper20_el0" | .pmevcntr21El0 => "pmevcntr21_el0"
  | .pmevtyper21El0 => "pmevtyper21_el0" | .pmevcntr22El0 => "pmevcntr22_el0"
  | .pmevtyper22El0 => "pmevtyper22_el0" | .pmevcntr23El0 => "pmevcntr23_el0"
  | .pmevtyper23El0 => "pmevtyper23_el0" | .pmevcntr24El0 => "pmevcntr24_el0"
  | .pmevtyper24El0 => "pmevtyper24_el0" | .pmevcntr25El0 => "pmevcntr25_el0"
  | .pmevtyper25El0 => "pmevtyper25_el0" | .pmevcntr26El0 => "pmevcntr26_el0"
  | .pmevtyper26El0 => "pmevtyper26_el0" | .pmevcntr27El0 => "pmevcntr27_el0"
  | .pmevtyper27El0 => "pmevtyper27_el0" | .pmevcntr28El0 => "pmevcntr28_el0"
  | .pmevtyper28El0 => "pmevtyper28_el0" | .pmevcntr29El0 => "pmevcntr29_el0"
  | .pmevtyper29El0 => "pmevtyper29_el0" | .pmevcntr30El0 => "pmevcntr30_el0"
  | .pmevtyper30El0 => "pmevtyper30_el0" | .osdtrrxEl1 => "osdtrrx_el1"
  | .mdccintEl1 => "mdccint_el1" | .mdscrEl1 => "mdscr_el1" | .osdtrtxEl1 => "osdtrtx_el1"
  | .oseccrEl1 => "oseccr_el1" | .mdrarEl1 => "mdrar_el1" | .oslarEl1 => "oslar_el1"
  | .oslsrEl1 => "oslsr_el1" | .osdlrEl1 => "osdlr_el1" | .dbgprcrEl1 => "dbgprcr_el1"
  | .dbgclaimsetEl1 => "dbgclaimset_el1" | .dbgclaimclrEl1 => "dbgclaimclr_el1"
  | .dbgauthstatusEl1 => "dbgauthstatus_el1" | .mdccsrEl0 => "mdccsr_el0"
  | .dbgdtrEl0 => "dbgdtr_el0" | .dbgdtrrxEl0 => "dbgdtrrx_el0" | .dbgvcr32El2 => "dbgvcr32_el2"
  | .trcprgctlr => "trcprgctlr" | .trcstatr => "trcstatr" | .trcconfigr => "trcconfigr"
  | .trctraceidr => "trctraceidr" | .dbgbvr0El1 => "dbgbvr0_el1" | .dbgbcr0El1 => "dbgbcr0_el1"
  | .dbgwvr0El1 => "dbgwvr0_el1" | .dbgwcr0El1 => "dbgwcr0_el1" | .dbgbvr1El1 => "dbgbvr1_el1"
  | .dbgbcr1El1 => "dbgbcr1_el1" | .dbgwvr1El1 => "dbgwvr1_el1" | .dbgwcr1El1 => "dbgwcr1_el1"
  | .dbgbvr2El1 => "dbgbvr2_el1" | .dbgbcr2El1 => "dbgbcr2_el1" | .dbgwvr2El1 => "dbgwvr2_el1"
  | .dbgwcr2El1 => "dbgwcr2_el1" | .dbgbvr3El1 => "dbgbvr3_el1" | .dbgbcr3El1 => "dbgbcr3_el1"
  | .dbgwvr3El1 => "dbgwvr3_el1" | .dbgwcr3El1 => "dbgwcr3_el1" | .dbgbvr4El1 => "dbgbvr4_el1"
  | .dbgbcr4El1 => "dbgbcr4_el1" | .dbgwvr4El1 => "dbgwvr4_el1" | .dbgwcr4El1 => "dbgwcr4_el1"
  | .dbgbvr5El1 => "dbgbvr5_el1" | .dbgbcr5El1 => "dbgbcr5_el1" | .dbgwvr5El1 => "dbgwvr5_el1"
  | .dbgwcr5El1 => "dbgwcr5_el1" | .dbgbvr6El1 => "dbgbvr6_el1" | .dbgbcr6El1 => "dbgbcr6_el1"
  | .dbgwvr6El1 => "dbgwvr6_el1" | .dbgwcr6El1 => "dbgwcr6_el1" | .dbgbvr7El1 => "dbgbvr7_el1"
  | .dbgbcr7El1 => "dbgbcr7_el1" | .dbgwvr7El1 => "dbgwvr7_el1" | .dbgwcr7El1 => "dbgwcr7_el1"
  | .dbgbvr8El1 => "dbgbvr8_el1" | .dbgbcr8El1 => "dbgbcr8_el1" | .dbgwvr8El1 => "dbgwvr8_el1"
  | .dbgwcr8El1 => "dbgwcr8_el1" | .dbgbvr9El1 => "dbgbvr9_el1" | .dbgbcr9El1 => "dbgbcr9_el1"
  | .dbgwvr9El1 => "dbgwvr9_el1" | .dbgwcr9El1 => "dbgwcr9_el1" | .dbgbvr10El1 => "dbgbvr10_el1"
  | .dbgbcr10El1 => "dbgbcr10_el1" | .dbgwvr10El1 => "dbgwvr10_el1"
  | .dbgwcr10El1 => "dbgwcr10_el1" | .dbgbvr11El1 => "dbgbvr11_el1"
  | .dbgbcr11El1 => "dbgbcr11_el1" | .dbgwvr11El1 => "dbgwvr11_el1"
  | .dbgwcr11El1 => "dbgwcr11_el1" | .dbgbvr12El1 => "dbgbvr12_el1"
  | .dbgbcr12El1 => "dbgbcr12_el1" | .dbgwvr12El1 => "dbgwvr12_el1"
  | .dbgwcr12El1 => "dbgwcr12_el1" | .dbgbvr13El1 => "dbgbvr13_el1"
  | .dbgbcr13El1 => "dbgbcr13_el1" | .dbgwvr13El1 => "dbgwvr13_el1"
  | .dbgwcr13El1 => "dbgwcr13_el1" | .dbgbvr14El1 => "dbgbvr14_el1"
  | .dbgbcr14El1 => "dbgbcr14_el1" | .dbgwvr14El1 => "dbgwvr14_el1"
  | .dbgwcr14El1 => "dbgwcr14_el1" | .dbgbvr15El1 => "dbgbvr15_el1"
  | .dbgbcr15El1 => "dbgbcr15_el1" | .dbgwvr15El1 => "dbgwvr15_el1"
  | .dbgwcr15El1 => "dbgwcr15_el1" | .dbgdtrtxEl0 => "dbgdtrtx_el0" | .s1e1r => "s1e1r"
  | .s1e1w => "s1e1w" | .s1e0r => "s1e0r" | .s1e0w => "s1e0w" | .s1e1rp => "s1e1rp"
  | .s1e1wp => "s1e1wp" | .s1e2r => "s1e2r" | .s1e2w => "s1e2w" | .s12e1r => "s12e1r"
  | .s12e1w => "s12e1w" | .s12e0r => "s12e0r" | .s12e0w => "s12e0w" | .s1e3r => "s1e3r"
  | .s1e3w => "s1e3w" | .zva => "zva" | .ivac => "ivac" | .isw => "isw" | .cvac => "cvac"
  | .csw => "csw" | .cvau => "cvau" | .civac => "civac" | .cisw => "cisw" | .cvap => "cvap"
  | .cvadp => "cvadp" | .ialluis => "ialluis" | .iallu => "iallu" | .ivau => "ivau"
  | .vmalle1is => "vmalle1is" | .vae1is => "vae1is" | .aside1is => "aside1is"
  | .vaae1is => "vaae1is" | .vale1is => "vale1is" | .vaale1is => "vaale1is"
  | .vmalle1 => "vmalle1" | .vae1 => "vae1" | .aside1 => "aside1" | .vaae1 => "vaae1"
  | .vale1 => "vale1" | .vaale1 => "vaale1" | .vmalle1os => "vmalle1os" | .vae1os => "vae1os"
  | .aside1os => "aside1os" | .vaae1os => "vaae1os" | .vale1os => "vale1os"
  | .vaale1os => "vaale1os" | .rvae1is => "rvae1is" | .rvaae1is => "rvaae1is"
  | .rvale1is => "rvale1is" | .rvaale1is => "rvaale1is" | .rvae1os => "rvae1os"
  | .rvaae1os => "rvaae1os" | .rvale1os => "rvale1os" | .rvaale1os => "rvaale1os"
  | .rvae1 => "rvae1" | .rvaae1 => "rvaae1" | .rvale1 => "rvale1" | .rvaale1 => "rvaale1"
  | .ipas2e1is => "ipas2e1is" | .ripas2e1is => "ripas2e1is" | .ipas2le1is => "ipas2le1is"
  | .ripas2le1is => "ripas2le1is" | .alle2os => "alle2os" | .vae2os => "vae2os"
  | .alle1os => "alle1os" | .vale2os => "vale2os" | .vmalls12e1os => "vmalls12e1os"
  | .rvae2is => "rvae2is" | .rvale2is => "rvale2is" | .alle2is => "alle2is" | .vae2is => "vae2is"
  | .alle1is => "alle1is" | .vale2is => "vale2is" | .vmalls12e1is => "vmalls12e1is"
  | .ipas2e1os => "ipas2e1os" | .ipas2e1 => "ipas2e1" | .ripas2e1 => "ripas2e1"
  | .ripas2e1os => "ripas2e1os" | .ipas2le1os => "ipas2le1os" | .ipas2le1 => "ipas2le1"
  | .ripas2le1 => "ripas2le1" | .ripas2le1os => "ripas2le1os" | .rvae2os => "rvae2os"
  | .rvale2os => "rvale2os" | .rvae2 => "rvae2" | .rvale2 => "rvale2" | .alle2 => "alle2"
  | .vae2 => "vae2" | .alle1 => "alle1" | .vale2 => "vale2" | .vmalls12e1 => "vmalls12e1"
  | .alle3os => "alle3os" | .vae3os => "vae3os" | .vale3os => "vale3os" | .rvae3is => "rvae3is"
  | .rvale3is => "rvale3is" | .alle3is => "alle3is" | .vae3is => "vae3is" | .vale3is => "vale3is"
  | .rvae3os => "rvae3os" | .rvale3os => "rvale3os" | .rvae3 => "rvae3" | .rvale3 => "rvale3"
  | .alle3 => "alle3" | .vae3 => "vae3" | .vale3 => "vale3" | .oshld => "oshld"
  | .oshst => "oshst" | .osh => "osh" | .nshld => "nshld" | .nshst => "nshst" | .nsh => "nsh"
  | .ishld => "ishld" | .ishst => "ishst" | .ish => "ish" | .ld => "ld" | .st => "st"
  | .sy => "sy" | .daifset => "daifset" | .daifclr => "daifclr" | .csync => "csync" | .c => "c"
  | .j => "j" | .jc => "jc"

/-- The symbol of a name: its parts between underscores, each with a capital, run together. -/
def symbol (r : SystemRegister) : String := Symbol.ofName r.name

/-- The system register with the given symbol. -/
def ofSymbol? (s : String) : Option SystemRegister := all.find? (·.symbol == s)

end A64.SystemRegister
