/-! Compatible spellings.

Normalization form KC (Unicode 14) of identifiers: two names are compatible if
they have the same form. A text is taken apart into its letters and marks, also
where a character merely stands for others (ligatures, wide and styled letters);
marks on one letter are put in the order of their classes; then letters and
marks are put together again where one character stands for them. Syllables of
Hangul are taken apart and put together by arithmetic. The tables cover the
characters that an identifier may hold. A row is one number, written in
hexadecimal, with five digits for each of its fields. -/
namespace Transclusion.Text

/-- The fields of a row from its number, whose last so many fields are to be read before those that have been
read. -/
def readRow : (fields : Nat) → (row : Nat) → (read : List Nat) → List Nat
  | 0, _, read => read
  | fields + 1, row, read =>
    if row = 0 then read else readRow fields (row / 0x100000) (row % 0x100000 :: read)

/-- A table from the numbers of its rows, which have five fields at most. -/
def rowsOf (table : List Nat) : List (List Nat) := table.map (readRow 5 · [])

/-- Characters that stand for one other: the first and the last of a run, its step, and what the first
stands for. -/
def simpleDecompositions : List (List Nat) := rowsOf [
  0xaa_000aa_00001_00061, 0xb5_000b5_00001_003bc, 0xba_000ba_00001_0006f, 0x17f_0017f_00001_00073,
  0x2b0_002b0_00001_00068, 0x2b1_002b1_00001_00266, 0x2b2_002b2_00001_0006a,
  0x2b3_002b3_00001_00072, 0x2b4_002b4_00001_00279, 0x2b5_002b5_00001_0027b,
  0x2b6_002b6_00001_00281, 0x2b7_002b7_00001_00077, 0x2b8_002b8_00001_00079,
  0x2e0_002e0_00001_00263, 0x2e1_002e1_00001_0006c, 0x2e2_002e2_00001_00073,
  0x2e3_002e3_00001_00078, 0x2e4_002e4_00001_00295, 0x340_00341_00001_00300,
  0x343_00343_00001_00313, 0x374_00374_00001_002b9, 0x387_00387_00001_000b7,
  0x3d0_003d0_00001_003b2, 0x3d1_003d1_00001_003b8, 0x3d2_003d2_00001_003a5,
  0x3d5_003d5_00001_003c6, 0x3d6_003d6_00001_003c0, 0x3f0_003f0_00001_003ba,
  0x3f1_003f2_00001_003c1, 0x3f4_003f4_00001_00398, 0x3f5_003f5_00001_003b5,
  0x3f9_003f9_00001_003a3, 0x10fc_010fc_00001_010dc, 0x1d2c_01d2c_00001_00041,
  0x1d2d_01d2d_00001_000c6, 0x1d2e_01d2e_00001_00042, 0x1d30_01d31_00001_00044,
  0x1d32_01d32_00001_0018e, 0x1d33_01d3a_00001_00047, 0x1d3c_01d3c_00001_0004f,
  0x1d3d_01d3d_00001_00222, 0x1d3e_01d3e_00001_00050, 0x1d3f_01d3f_00001_00052,
  0x1d40_01d41_00001_00054, 0x1d42_01d42_00001_00057, 0x1d43_01d43_00001_00061,
  0x1d44_01d45_00001_00250, 0x1d46_01d46_00001_01d02, 0x1d47_01d47_00001_00062,
  0x1d48_01d49_00001_00064, 0x1d4a_01d4a_00001_00259, 0x1d4b_01d4c_00001_0025b,
  0x1d4d_01d4d_00001_00067, 0x1d4f_01d4f_00001_0006b, 0x1d50_01d50_00001_0006d,
  0x1d51_01d51_00001_0014b, 0x1d52_01d52_00001_0006f, 0x1d53_01d53_00001_00254,
  0x1d54_01d55_00001_01d16, 0x1d56_01d56_00001_00070, 0x1d57_01d58_00001_00074,
  0x1d59_01d59_00001_01d1d, 0x1d5a_01d5a_00001_0026f, 0x1d5b_01d5b_00001_00076,
  0x1d5c_01d5c_00001_01d25, 0x1d5d_01d5f_00001_003b2, 0x1d60_01d61_00001_003c6,
  0x1d62_01d62_00001_00069, 0x1d63_01d63_00001_00072, 0x1d64_01d65_00001_00075,
  0x1d66_01d67_00001_003b2, 0x1d68_01d68_00001_003c1, 0x1d69_01d6a_00001_003c6,
  0x1d78_01d78_00001_0043d, 0x1d9b_01d9b_00001_00252, 0x1d9c_01d9c_00001_00063,
  0x1d9d_01d9d_00001_00255, 0x1d9e_01d9e_00001_000f0, 0x1d9f_01d9f_00001_0025c,
  0x1da0_01da0_00001_00066, 0x1da1_01da1_00001_0025f, 0x1da2_01da2_00001_00261,
  0x1da3_01da3_00001_00265, 0x1da4_01da6_00001_00268, 0x1da7_01da7_00001_01d7b,
  0x1da8_01da8_00001_0029d, 0x1da9_01da9_00001_0026d, 0x1daa_01daa_00001_01d85,
  0x1dab_01dab_00001_0029f, 0x1dac_01dac_00001_00271, 0x1dad_01dad_00001_00270,
  0x1dae_01db1_00001_00272, 0x1db2_01db2_00001_00278, 0x1db3_01db4_00001_00282,
  0x1db5_01db5_00001_001ab, 0x1db6_01db7_00001_00289, 0x1db8_01db8_00001_01d1c,
  0x1db9_01dba_00001_0028b, 0x1dbb_01dbb_00001_0007a, 0x1dbc_01dbe_00001_00290,
  0x1dbf_01dbf_00001_003b8, 0x1fbe_01fbe_00001_003b9, 0x2071_02071_00001_00069,
  0x207f_0207f_00001_0006e, 0x2090_02090_00001_00061, 0x2091_02091_00001_00065,
  0x2092_02092_00001_0006f, 0x2093_02093_00001_00078, 0x2094_02094_00001_00259,
  0x2095_02095_00001_00068, 0x2096_02099_00001_0006b, 0x209a_0209a_00001_00070,
  0x209b_0209c_00001_00073, 0x2102_02102_00001_00043, 0x2107_02107_00001_00190,
  0x210a_0210a_00001_00067, 0x210b_0210b_00001_00048, 0x210c_0210c_00001_00048,
  0x210d_0210d_00001_00048, 0x210e_0210e_00001_00068, 0x210f_0210f_00001_00127,
  0x2110_02110_00001_00049, 0x2111_02111_00001_00049, 0x2112_02112_00001_0004c,
  0x2113_02113_00001_0006c, 0x2115_02115_00001_0004e, 0x2119_0211b_00001_00050,
  0x211c_0211c_00001_00052, 0x211d_0211d_00001_00052, 0x2124_02124_00001_0005a,
  0x2126_02126_00001_003a9, 0x2128_02128_00001_0005a, 0x212a_0212a_00001_0004b,
  0x212c_0212d_00001_00042, 0x212f_0212f_00001_00065, 0x2130_02131_00001_00045,
  0x2133_02133_00001_0004d, 0x2134_02134_00001_0006f, 0x2135_02138_00001_005d0,
  0x2139_02139_00001_00069, 0x213c_0213c_00001_003c0, 0x213d_0213d_00001_003b3,
  0x213e_0213e_00001_00393, 0x213f_0213f_00001_003a0, 0x2145_02145_00001_00044,
  0x2146_02147_00001_00064, 0x2148_02149_00001_00069, 0x2160_02160_00001_00049,
  0x2164_02164_00001_00056, 0x2169_02169_00001_00058, 0x216c_0216c_00001_0004c,
  0x216d_0216e_00001_00043, 0x216f_0216f_00001_0004d, 0x2170_02170_00001_00069,
  0x2174_02174_00001_00076, 0x2179_02179_00001_00078, 0x217c_0217c_00001_0006c,
  0x217d_0217e_00001_00063, 0x217f_0217f_00001_0006d, 0x2c7c_02c7c_00001_0006a,
  0x2c7d_02c7d_00001_00056, 0x2d6f_02d6f_00001_02d61, 0x3038_03038_00001_05341,
  0x3039_0303a_00001_05344, 0x3131_03132_00001_01100, 0x3133_03133_00001_011aa,
  0x3134_03134_00001_01102, 0x3135_03136_00001_011ac, 0x3137_03139_00001_01103,
  0x313a_0313f_00001_011b0, 0x3140_03140_00001_0111a, 0x3141_03143_00001_01106,
  0x3144_03144_00001_01121, 0x3145_0314e_00001_01109, 0x314f_03163_00001_01161,
  0x3164_03164_00001_01160, 0x3165_03166_00001_01114, 0x3167_03168_00001_011c7,
  0x3169_03169_00001_011cc, 0x316a_0316a_00001_011ce, 0x316b_0316b_00001_011d3,
  0x316c_0316c_00001_011d7, 0x316d_0316d_00001_011d9, 0x316e_0316e_00001_0111c,
  0x316f_0316f_00001_011dd, 0x3170_03170_00001_011df, 0x3171_03172_00001_0111d,
  0x3173_03173_00001_01120, 0x3174_03175_00001_01122, 0x3176_03176_00001_01127,
  0x3177_03177_00001_01129, 0x3178_0317c_00001_0112b, 0x317d_0317d_00001_01132,
  0x317e_0317e_00001_01136, 0x317f_0317f_00001_01140, 0x3180_03180_00001_01147,
  0x3181_03181_00001_0114c, 0x3182_03183_00001_011f1, 0x3184_03186_00001_01157,
  0x3187_03188_00001_01184, 0x3189_03189_00001_01188, 0x318a_0318b_00001_01191,
  0x318c_0318c_00001_01194, 0x318d_0318d_00001_0119e, 0x318e_0318e_00001_011a1,
  0xa69c_0a69c_00001_0044a, 0xa69d_0a69d_00001_0044c, 0xa770_0a770_00001_0a76f,
  0xa7f2_0a7f2_00001_00043, 0xa7f3_0a7f3_00001_00046, 0xa7f4_0a7f4_00001_00051,
  0xa7f8_0a7f8_00001_00126, 0xa7f9_0a7f9_00001_00153, 0xab5c_0ab5c_00001_0a727,
  0xab5d_0ab5d_00001_0ab37, 0xab5e_0ab5e_00001_0026b, 0xab5f_0ab5f_00001_0ab52,
  0xab69_0ab69_00001_0028d, 0xf900_0f900_00001_08c48, 0xf901_0f901_00001_066f4,
  0xf902_0f902_00001_08eca, 0xf903_0f903_00001_08cc8, 0xf904_0f904_00001_06ed1,
  0xf905_0f905_00001_04e32, 0xf906_0f906_00001_053e5, 0xf907_0f907_00001_09f9c,
  0xf908_0f908_00001_09f9c, 0xf909_0f909_00001_05951, 0xf90a_0f90a_00001_091d1,
  0xf90b_0f90b_00001_05587, 0xf90c_0f90c_00001_05948, 0xf90d_0f90d_00001_061f6,
  0xf90e_0f90e_00001_07669, 0xf90f_0f90f_00001_07f85, 0xf910_0f910_00001_0863f,
  0xf911_0f911_00001_087ba, 0xf912_0f912_00001_088f8, 0xf913_0f913_00001_0908f,
  0xf914_0f914_00001_06a02, 0xf915_0f915_00001_06d1b, 0xf916_0f916_00001_070d9,
  0xf917_0f917_00001_073de, 0xf918_0f918_00001_0843d, 0xf919_0f919_00001_0916a,
  0xf91a_0f91a_00001_099f1, 0xf91b_0f91b_00001_04e82, 0xf91c_0f91c_00001_05375,
  0xf91d_0f91d_00001_06b04, 0xf91e_0f91e_00001_0721b, 0xf91f_0f91f_00001_0862d,
  0xf920_0f920_00001_09e1e, 0xf921_0f921_00001_05d50, 0xf922_0f922_00001_06feb,
  0xf923_0f923_00001_085cd, 0xf924_0f924_00001_08964, 0xf925_0f925_00001_062c9,
  0xf926_0f926_00001_081d8, 0xf927_0f927_00001_0881f, 0xf928_0f928_00001_05eca,
  0xf929_0f929_00001_06717, 0xf92a_0f92a_00001_06d6a, 0xf92b_0f92b_00001_072fc,
  0xf92c_0f92c_00001_090ce, 0xf92d_0f92d_00001_04f86, 0xf92e_0f92e_00001_051b7,
  0xf92f_0f92f_00001_052de, 0xf930_0f930_00001_064c4, 0xf931_0f931_00001_06ad3,
  0xf932_0f932_00001_07210, 0xf933_0f933_00001_076e7, 0xf934_0f934_00001_08001,
  0xf935_0f935_00001_08606, 0xf936_0f936_00001_0865c, 0xf937_0f937_00001_08def,
  0xf938_0f938_00001_09732, 0xf939_0f939_00001_09b6f, 0xf93a_0f93a_00001_09dfa,
  0xf93b_0f93b_00001_0788c, 0xf93c_0f93c_00001_0797f, 0xf93d_0f93d_00001_07da0,
  0xf93e_0f93e_00001_083c9, 0xf93f_0f93f_00001_09304, 0xf940_0f940_00001_09e7f,
  0xf941_0f941_00001_08ad6, 0xf942_0f942_00001_058df, 0xf943_0f943_00001_05f04,
  0xf944_0f944_00001_07c60, 0xf945_0f945_00001_0807e, 0xf946_0f946_00001_07262,
  0xf947_0f947_00001_078ca, 0xf948_0f948_00001_08cc2, 0xf949_0f949_00001_096f7,
  0xf94a_0f94a_00001_058d8, 0xf94b_0f94b_00001_05c62, 0xf94c_0f94c_00001_06a13,
  0xf94d_0f94d_00001_06dda, 0xf94e_0f94e_00001_06f0f, 0xf94f_0f94f_00001_07d2f,
  0xf950_0f950_00001_07e37, 0xf951_0f951_00001_0964b, 0xf952_0f952_00001_052d2,
  0xf953_0f953_00001_0808b, 0xf954_0f954_00001_051dc, 0xf955_0f955_00001_051cc,
  0xf956_0f956_00001_07a1c, 0xf957_0f957_00001_07dbe, 0xf958_0f958_00001_083f1,
  0xf959_0f959_00001_09675, 0xf95a_0f95a_00001_08b80, 0xf95b_0f95b_00001_062cf,
  0xf95c_0f95c_00001_06a02, 0xf95d_0f95d_00001_08afe, 0xf95e_0f95e_00001_04e39,
  0xf95f_0f95f_00001_05be7, 0xf960_0f960_00001_06012, 0xf961_0f961_00001_07387,
  0xf962_0f962_00001_07570, 0xf963_0f963_00001_05317, 0xf964_0f964_00001_078fb,
  0xf965_0f965_00001_04fbf, 0xf966_0f966_00001_05fa9, 0xf967_0f967_00001_04e0d,
  0xf968_0f968_00001_06ccc, 0xf969_0f969_00001_06578, 0xf96a_0f96a_00001_07d22,
  0xf96b_0f96b_00001_053c3, 0xf96c_0f96c_00001_0585e, 0xf96d_0f96d_00001_07701,
  0xf96e_0f96e_00001_08449, 0xf96f_0f96f_00001_08aaa, 0xf970_0f970_00001_06bba,
  0xf971_0f971_00001_08fb0, 0xf972_0f972_00001_06c88, 0xf973_0f973_00001_062fe,
  0xf974_0f974_00001_082e5, 0xf975_0f975_00001_063a0, 0xf976_0f976_00001_07565,
  0xf977_0f977_00001_04eae, 0xf978_0f978_00001_05169, 0xf979_0f979_00001_051c9,
  0xf97a_0f97a_00001_06881, 0xf97b_0f97b_00001_07ce7, 0xf97c_0f97c_00001_0826f,
  0xf97d_0f97d_00001_08ad2, 0xf97e_0f97e_00001_091cf, 0xf97f_0f97f_00001_052f5,
  0xf980_0f980_00001_05442, 0xf981_0f981_00001_05973, 0xf982_0f982_00001_05eec,
  0xf983_0f983_00001_065c5, 0xf984_0f984_00001_06ffe, 0xf985_0f985_00001_0792a,
  0xf986_0f986_00001_095ad, 0xf987_0f987_00001_09a6a, 0xf988_0f988_00001_09e97,
  0xf989_0f989_00001_09ece, 0xf98a_0f98a_00001_0529b, 0xf98b_0f98b_00001_066c6,
  0xf98c_0f98c_00001_06b77, 0xf98d_0f98d_00001_08f62, 0xf98e_0f98e_00001_05e74,
  0xf98f_0f98f_00001_06190, 0xf990_0f990_00001_06200, 0xf991_0f991_00001_0649a,
  0xf992_0f992_00001_06f23, 0xf993_0f993_00001_07149, 0xf994_0f994_00001_07489,
  0xf995_0f995_00001_079ca, 0xf996_0f996_00001_07df4, 0xf997_0f997_00001_0806f,
  0xf998_0f998_00001_08f26, 0xf999_0f999_00001_084ee, 0xf99a_0f99a_00001_09023,
  0xf99b_0f99b_00001_0934a, 0xf99c_0f99c_00001_05217, 0xf99d_0f99d_00001_052a3,
  0xf99e_0f99e_00001_054bd, 0xf99f_0f99f_00001_070c8, 0xf9a0_0f9a0_00001_088c2,
  0xf9a1_0f9a1_00001_08aaa, 0xf9a2_0f9a2_00001_05ec9, 0xf9a3_0f9a3_00001_05ff5,
  0xf9a4_0f9a4_00001_0637b, 0xf9a5_0f9a5_00001_06bae, 0xf9a6_0f9a6_00001_07c3e,
  0xf9a7_0f9a7_00001_07375, 0xf9a8_0f9a8_00001_04ee4, 0xf9a9_0f9a9_00001_056f9,
  0xf9aa_0f9aa_00001_05be7, 0xf9ab_0f9ab_00001_05dba, 0xf9ac_0f9ac_00001_0601c,
  0xf9ad_0f9ad_00001_073b2, 0xf9ae_0f9ae_00001_07469, 0xf9af_0f9af_00001_07f9a,
  0xf9b0_0f9b0_00001_08046, 0xf9b1_0f9b1_00001_09234, 0xf9b2_0f9b2_00001_096f6,
  0xf9b3_0f9b3_00001_09748, 0xf9b4_0f9b4_00001_09818, 0xf9b5_0f9b5_00001_04f8b,
  0xf9b6_0f9b6_00001_079ae, 0xf9b7_0f9b7_00001_091b4, 0xf9b8_0f9b8_00001_096b8,
  0xf9b9_0f9b9_00001_060e1, 0xf9ba_0f9ba_00001_04e86, 0xf9bb_0f9bb_00001_050da,
  0xf9bc_0f9bc_00001_05bee, 0xf9bd_0f9bd_00001_05c3f, 0xf9be_0f9be_00001_06599,
  0xf9bf_0f9bf_00001_06a02, 0xf9c0_0f9c0_00001_071ce, 0xf9c1_0f9c1_00001_07642,
  0xf9c2_0f9c2_00001_084fc, 0xf9c3_0f9c3_00001_0907c, 0xf9c4_0f9c4_00001_09f8d,
  0xf9c5_0f9c5_00001_06688, 0xf9c6_0f9c6_00001_0962e, 0xf9c7_0f9c7_00001_05289,
  0xf9c8_0f9c8_00001_0677b, 0xf9c9_0f9c9_00001_067f3, 0xf9ca_0f9ca_00001_06d41,
  0xf9cb_0f9cb_00001_06e9c, 0xf9cc_0f9cc_00001_07409, 0xf9cd_0f9cd_00001_07559,
  0xf9ce_0f9ce_00001_0786b, 0xf9cf_0f9cf_00001_07d10, 0xf9d0_0f9d0_00001_0985e,
  0xf9d1_0f9d1_00001_0516d, 0xf9d2_0f9d2_00001_0622e, 0xf9d3_0f9d3_00001_09678,
  0xf9d4_0f9d4_00001_0502b, 0xf9d5_0f9d5_00001_05d19, 0xf9d6_0f9d6_00001_06dea,
  0xf9d7_0f9d7_00001_08f2a, 0xf9d8_0f9d8_00001_05f8b, 0xf9d9_0f9d9_00001_06144,
  0xf9da_0f9da_00001_06817, 0xf9db_0f9db_00001_07387, 0xf9dc_0f9dc_00001_09686,
  0xf9dd_0f9dd_00001_05229, 0xf9de_0f9de_00001_0540f, 0xf9df_0f9df_00001_05c65,
  0xf9e0_0f9e0_00001_06613, 0xf9e1_0f9e1_00001_0674e, 0xf9e2_0f9e2_00001_068a8,
  0xf9e3_0f9e3_00001_06ce5, 0xf9e4_0f9e4_00001_07406, 0xf9e5_0f9e5_00001_075e2,
  0xf9e6_0f9e6_00001_07f79, 0xf9e7_0f9e7_00001_088cf, 0xf9e8_0f9e8_00001_088e1,
  0xf9e9_0f9e9_00001_091cc, 0xf9ea_0f9ea_00001_096e2, 0xf9eb_0f9eb_00001_0533f,
  0xf9ec_0f9ec_00001_06eba, 0xf9ed_0f9ed_00001_0541d, 0xf9ee_0f9ee_00001_071d0,
  0xf9ef_0f9ef_00001_07498, 0xf9f0_0f9f0_00001_085fa, 0xf9f1_0f9f1_00001_096a3,
  0xf9f2_0f9f2_00001_09c57, 0xf9f3_0f9f3_00001_09e9f, 0xf9f4_0f9f4_00001_06797,
  0xf9f5_0f9f5_00001_06dcb, 0xf9f6_0f9f6_00001_081e8, 0xf9f7_0f9f7_00001_07acb,
  0xf9f8_0f9f8_00001_07b20, 0xf9f9_0f9f9_00001_07c92, 0xf9fa_0f9fa_00001_072c0,
  0xf9fb_0f9fb_00001_07099, 0xf9fc_0f9fc_00001_08b58, 0xf9fd_0f9fd_00001_04ec0,
  0xf9fe_0f9fe_00001_08336, 0xf9ff_0f9ff_00001_0523a, 0xfa00_0fa00_00001_05207,
  0xfa01_0fa01_00001_05ea6, 0xfa02_0fa02_00001_062d3, 0xfa03_0fa03_00001_07cd6,
  0xfa04_0fa04_00001_05b85, 0xfa05_0fa05_00001_06d1e, 0xfa06_0fa06_00001_066b4,
  0xfa07_0fa07_00001_08f3b, 0xfa08_0fa08_00001_0884c, 0xfa09_0fa09_00001_0964d,
  0xfa0a_0fa0a_00001_0898b, 0xfa0b_0fa0b_00001_05ed3, 0xfa0c_0fa0c_00001_05140,
  0xfa0d_0fa0d_00001_055c0, 0xfa10_0fa10_00001_0585a, 0xfa12_0fa12_00001_06674,
  0xfa15_0fa15_00001_051de, 0xfa16_0fa16_00001_0732a, 0xfa17_0fa17_00001_076ca,
  0xfa18_0fa18_00001_0793c, 0xfa19_0fa19_00001_0795e, 0xfa1a_0fa1a_00001_07965,
  0xfa1b_0fa1b_00001_0798f, 0xfa1c_0fa1c_00001_09756, 0xfa1d_0fa1d_00001_07cbe,
  0xfa1e_0fa1e_00001_07fbd, 0xfa20_0fa20_00001_08612, 0xfa22_0fa22_00001_08af8,
  0xfa25_0fa25_00001_09038, 0xfa26_0fa26_00001_090fd, 0xfa2a_0fa2a_00001_098ef,
  0xfa2b_0fa2b_00001_098fc, 0xfa2c_0fa2c_00001_09928, 0xfa2d_0fa2d_00001_09db4,
  0xfa2e_0fa2e_00001_090de, 0xfa2f_0fa2f_00001_096b7, 0xfa30_0fa30_00001_04fae,
  0xfa31_0fa31_00001_050e7, 0xfa32_0fa32_00001_0514d, 0xfa33_0fa33_00001_052c9,
  0xfa34_0fa34_00001_052e4, 0xfa35_0fa35_00001_05351, 0xfa36_0fa36_00001_0559d,
  0xfa37_0fa37_00001_05606, 0xfa38_0fa38_00001_05668, 0xfa39_0fa39_00001_05840,
  0xfa3a_0fa3a_00001_058a8, 0xfa3b_0fa3b_00001_05c64, 0xfa3c_0fa3c_00001_05c6e,
  0xfa3d_0fa3d_00001_06094, 0xfa3e_0fa3e_00001_06168, 0xfa3f_0fa3f_00001_0618e,
  0xfa40_0fa40_00001_061f2, 0xfa41_0fa41_00001_0654f, 0xfa42_0fa42_00001_065e2,
  0xfa43_0fa43_00001_06691, 0xfa44_0fa44_00001_06885, 0xfa45_0fa45_00001_06d77,
  0xfa46_0fa46_00001_06e1a, 0xfa47_0fa47_00001_06f22, 0xfa48_0fa48_00001_0716e,
  0xfa49_0fa49_00001_0722b, 0xfa4a_0fa4a_00001_07422, 0xfa4b_0fa4b_00001_07891,
  0xfa4c_0fa4c_00001_0793e, 0xfa4d_0fa4d_00001_07949, 0xfa4e_0fa4e_00001_07948,
  0xfa4f_0fa4f_00001_07950, 0xfa50_0fa50_00001_07956, 0xfa51_0fa51_00001_0795d,
  0xfa52_0fa53_00001_0798d, 0xfa54_0fa54_00001_07a40, 0xfa55_0fa55_00001_07a81,
  0xfa56_0fa56_00001_07bc0, 0xfa57_0fa57_00001_07df4, 0xfa58_0fa58_00001_07e09,
  0xfa59_0fa59_00001_07e41, 0xfa5a_0fa5a_00001_07f72, 0xfa5b_0fa5b_00001_08005,
  0xfa5c_0fa5c_00001_081ed, 0xfa5d_0fa5d_00001_08279, 0xfa5e_0fa5e_00001_08279,
  0xfa5f_0fa5f_00001_08457, 0xfa60_0fa60_00001_08910, 0xfa61_0fa61_00001_08996,
  0xfa62_0fa62_00001_08b01, 0xfa63_0fa63_00001_08b39, 0xfa64_0fa64_00001_08cd3,
  0xfa65_0fa65_00001_08d08, 0xfa66_0fa66_00001_08fb6, 0xfa67_0fa67_00001_09038,
  0xfa68_0fa68_00001_096e3, 0xfa69_0fa69_00001_097ff, 0xfa6a_0fa6a_00001_0983b,
  0xfa6b_0fa6b_00001_06075, 0xfa6c_0fa6c_00001_242ee, 0xfa6d_0fa6d_00001_08218,
  0xfa70_0fa70_00001_04e26, 0xfa71_0fa71_00001_051b5, 0xfa72_0fa72_00001_05168,
  0xfa73_0fa73_00001_04f80, 0xfa74_0fa74_00001_05145, 0xfa75_0fa75_00001_05180,
  0xfa76_0fa76_00001_052c7, 0xfa77_0fa77_00001_052fa, 0xfa78_0fa78_00001_0559d,
  0xfa79_0fa79_00001_05555, 0xfa7a_0fa7a_00001_05599, 0xfa7b_0fa7b_00001_055e2,
  0xfa7c_0fa7c_00001_0585a, 0xfa7d_0fa7d_00001_058b3, 0xfa7e_0fa7e_00001_05944,
  0xfa7f_0fa7f_00001_05954, 0xfa80_0fa80_00001_05a62, 0xfa81_0fa81_00001_05b28,
  0xfa82_0fa82_00001_05ed2, 0xfa83_0fa83_00001_05ed9, 0xfa84_0fa84_00001_05f69,
  0xfa85_0fa85_00001_05fad, 0xfa86_0fa86_00001_060d8, 0xfa87_0fa87_00001_0614e,
  0xfa88_0fa88_00001_06108, 0xfa89_0fa89_00001_0618e, 0xfa8a_0fa8a_00001_06160,
  0xfa8b_0fa8b_00001_061f2, 0xfa8c_0fa8c_00001_06234, 0xfa8d_0fa8d_00001_063c4,
  0xfa8e_0fa8e_00001_0641c, 0xfa8f_0fa8f_00001_06452, 0xfa90_0fa90_00001_06556,
  0xfa91_0fa91_00001_06674, 0xfa92_0fa92_00001_06717, 0xfa93_0fa93_00001_0671b,
  0xfa94_0fa94_00001_06756, 0xfa95_0fa95_00001_06b79, 0xfa96_0fa96_00001_06bba,
  0xfa97_0fa97_00001_06d41, 0xfa98_0fa98_00001_06edb, 0xfa99_0fa99_00001_06ecb,
  0xfa9a_0fa9a_00001_06f22, 0xfa9b_0fa9b_00001_0701e, 0xfa9c_0fa9c_00001_0716e,
  0xfa9d_0fa9d_00001_077a7, 0xfa9e_0fa9e_00001_07235, 0xfa9f_0fa9f_00001_072af,
  0xfaa0_0faa0_00001_0732a, 0xfaa1_0faa1_00001_07471, 0xfaa2_0faa2_00001_07506,
  0xfaa3_0faa3_00001_0753b, 0xfaa4_0faa4_00001_0761d, 0xfaa5_0faa5_00001_0761f,
  0xfaa6_0faa6_00001_076ca, 0xfaa7_0faa7_00001_076db, 0xfaa8_0faa8_00001_076f4,
  0xfaa9_0faa9_00001_0774a, 0xfaaa_0faaa_00001_07740, 0xfaab_0faab_00001_078cc,
  0xfaac_0faac_00001_07ab1, 0xfaad_0faad_00001_07bc0, 0xfaae_0faae_00001_07c7b,
  0xfaaf_0faaf_00001_07d5b, 0xfab0_0fab0_00001_07df4, 0xfab1_0fab1_00001_07f3e,
  0xfab2_0fab2_00001_08005, 0xfab3_0fab3_00001_08352, 0xfab4_0fab4_00001_083ef,
  0xfab5_0fab5_00001_08779, 0xfab6_0fab6_00001_08941, 0xfab7_0fab7_00001_08986,
  0xfab8_0fab8_00001_08996, 0xfab9_0fab9_00001_08abf, 0xfaba_0faba_00001_08af8,
  0xfabb_0fabb_00001_08acb, 0xfabc_0fabc_00001_08b01, 0xfabd_0fabd_00001_08afe,
  0xfabe_0fabe_00001_08aed, 0xfabf_0fabf_00001_08b39, 0xfac0_0fac0_00001_08b8a,
  0xfac1_0fac1_00001_08d08, 0xfac2_0fac2_00001_08f38, 0xfac3_0fac3_00001_09072,
  0xfac4_0fac4_00001_09199, 0xfac5_0fac5_00001_09276, 0xfac6_0fac6_00001_0967c,
  0xfac7_0fac7_00001_096e3, 0xfac8_0fac8_00001_09756, 0xfac9_0fac9_00001_097db,
  0xfaca_0faca_00001_097ff, 0xfacb_0facb_00001_0980b, 0xfacc_0facc_00001_0983b,
  0xfacd_0facd_00001_09b12, 0xface_0face_00001_09f9c, 0xfacf_0facf_00001_2284a,
  0xfad0_0fad0_00001_22844, 0xfad1_0fad1_00001_233d5, 0xfad2_0fad2_00001_03b9d,
  0xfad3_0fad3_00001_04018, 0xfad4_0fad4_00001_04039, 0xfad5_0fad5_00001_25249,
  0xfad6_0fad6_00001_25cd0, 0xfad7_0fad7_00001_27ed3, 0xfad8_0fad8_00001_09f43,
  0xfad9_0fad9_00001_09f8e, 0xfb20_0fb20_00001_005e2, 0xfb21_0fb21_00001_005d0,
  0xfb22_0fb23_00001_005d3, 0xfb24_0fb26_00001_005db, 0xfb27_0fb27_00001_005e8,
  0xfb28_0fb28_00001_005ea, 0xfb50_0fb50_00001_00671, 0xfb51_0fb51_00001_00671,
  0xfb52_0fb52_00001_0067b, 0xfb53_0fb53_00001_0067b, 0xfb54_0fb54_00001_0067b,
  0xfb55_0fb55_00001_0067b, 0xfb56_0fb56_00001_0067e, 0xfb57_0fb57_00001_0067e,
  0xfb58_0fb58_00001_0067e, 0xfb59_0fb59_00001_0067e, 0xfb5a_0fb5a_00001_00680,
  0xfb5b_0fb5b_00001_00680, 0xfb5c_0fb5c_00001_00680, 0xfb5d_0fb5d_00001_00680,
  0xfb5e_0fb5e_00001_0067a, 0xfb5f_0fb5f_00001_0067a, 0xfb60_0fb60_00001_0067a,
  0xfb61_0fb61_00001_0067a, 0xfb62_0fb62_00001_0067f, 0xfb63_0fb63_00001_0067f,
  0xfb64_0fb64_00001_0067f, 0xfb65_0fb65_00001_0067f, 0xfb66_0fb66_00001_00679,
  0xfb67_0fb67_00001_00679, 0xfb68_0fb68_00001_00679, 0xfb69_0fb69_00001_00679,
  0xfb6a_0fb6a_00001_006a4, 0xfb6b_0fb6b_00001_006a4, 0xfb6c_0fb6c_00001_006a4,
  0xfb6d_0fb6d_00001_006a4, 0xfb6e_0fb6e_00001_006a6, 0xfb6f_0fb6f_00001_006a6,
  0xfb70_0fb70_00001_006a6, 0xfb71_0fb71_00001_006a6, 0xfb72_0fb72_00001_00684,
  0xfb73_0fb73_00001_00684, 0xfb74_0fb74_00001_00684, 0xfb75_0fb75_00001_00684,
  0xfb76_0fb76_00001_00683, 0xfb77_0fb77_00001_00683, 0xfb78_0fb78_00001_00683,
  0xfb79_0fb79_00001_00683, 0xfb7a_0fb7a_00001_00686, 0xfb7b_0fb7b_00001_00686,
  0xfb7c_0fb7c_00001_00686, 0xfb7d_0fb7e_00001_00686, 0xfb7f_0fb7f_00001_00687,
  0xfb80_0fb80_00001_00687, 0xfb81_0fb81_00001_00687, 0xfb82_0fb82_00001_0068d,
  0xfb83_0fb83_00001_0068d, 0xfb84_0fb84_00001_0068c, 0xfb85_0fb85_00001_0068c,
  0xfb86_0fb86_00001_0068e, 0xfb87_0fb87_00001_0068e, 0xfb88_0fb88_00001_00688,
  0xfb89_0fb89_00001_00688, 0xfb8a_0fb8a_00001_00698, 0xfb8b_0fb8b_00001_00698,
  0xfb8c_0fb8c_00001_00691, 0xfb8d_0fb8d_00001_00691, 0xfb8e_0fb8e_00001_006a9,
  0xfb8f_0fb8f_00001_006a9, 0xfb90_0fb90_00001_006a9, 0xfb91_0fb91_00001_006a9,
  0xfb92_0fb92_00001_006af, 0xfb93_0fb93_00001_006af, 0xfb94_0fb94_00001_006af,
  0xfb95_0fb95_00001_006af, 0xfb96_0fb96_00001_006b3, 0xfb97_0fb97_00001_006b3,
  0xfb98_0fb98_00001_006b3, 0xfb99_0fb99_00001_006b3, 0xfb9a_0fb9a_00001_006b1,
  0xfb9b_0fb9b_00001_006b1, 0xfb9c_0fb9c_00001_006b1, 0xfb9d_0fb9d_00001_006b1,
  0xfb9e_0fb9e_00001_006ba, 0xfb9f_0fba0_00001_006ba, 0xfba1_0fba1_00001_006bb,
  0xfba2_0fba2_00001_006bb, 0xfba3_0fba3_00001_006bb, 0xfba6_0fba6_00001_006c1,
  0xfba7_0fba7_00001_006c1, 0xfba8_0fba8_00001_006c1, 0xfba9_0fba9_00001_006c1,
  0xfbaa_0fbaa_00001_006be, 0xfbab_0fbab_00001_006be, 0xfbac_0fbac_00001_006be,
  0xfbad_0fbad_00001_006be, 0xfbae_0fbae_00001_006d2, 0xfbaf_0fbaf_00001_006d2,
  0xfbd3_0fbd3_00001_006ad, 0xfbd4_0fbd4_00001_006ad, 0xfbd5_0fbd5_00001_006ad,
  0xfbd6_0fbd6_00001_006ad, 0xfbd7_0fbd7_00001_006c7, 0xfbd8_0fbd8_00001_006c7,
  0xfbd9_0fbd9_00001_006c6, 0xfbda_0fbda_00001_006c6, 0xfbdb_0fbdb_00001_006c8,
  0xfbdc_0fbdc_00001_006c8, 0xfbde_0fbde_00001_006cb, 0xfbdf_0fbdf_00001_006cb,
  0xfbe0_0fbe0_00001_006c5, 0xfbe1_0fbe1_00001_006c5, 0xfbe2_0fbe2_00001_006c9,
  0xfbe3_0fbe3_00001_006c9, 0xfbe4_0fbe4_00001_006d0, 0xfbe5_0fbe5_00001_006d0,
  0xfbe6_0fbe6_00001_006d0, 0xfbe7_0fbe7_00001_006d0, 0xfbe8_0fbe8_00001_00649,
  0xfbe9_0fbe9_00001_00649, 0xfbfc_0fbfc_00001_006cc, 0xfbfd_0fbfd_00001_006cc,
  0xfbfe_0fbfe_00001_006cc, 0xfbff_0fbff_00001_006cc, 0xfe33_0fe33_00001_0005f,
  0xfe34_0fe34_00001_0005f, 0xfe4d_0fe4d_00001_0005f, 0xfe4e_0fe4e_00001_0005f,
  0xfe4f_0fe4f_00001_0005f, 0xfe80_0fe80_00001_00621, 0xfe8d_0fe8d_00001_00627,
  0xfe8e_0fe8f_00001_00627, 0xfe90_0fe90_00001_00628, 0xfe91_0fe91_00001_00628,
  0xfe92_0fe93_00001_00628, 0xfe94_0fe95_00001_00629, 0xfe96_0fe96_00001_0062a,
  0xfe97_0fe97_00001_0062a, 0xfe98_0fe99_00001_0062a, 0xfe9a_0fe9a_00001_0062b,
  0xfe9b_0fe9b_00001_0062b, 0xfe9c_0fe9d_00001_0062b, 0xfe9e_0fe9e_00001_0062c,
  0xfe9f_0fe9f_00001_0062c, 0xfea0_0fea1_00001_0062c, 0xfea2_0fea2_00001_0062d,
  0xfea3_0fea3_00001_0062d, 0xfea4_0fea5_00001_0062d, 0xfea6_0fea6_00001_0062e,
  0xfea7_0fea7_00001_0062e, 0xfea8_0fea9_00001_0062e, 0xfeaa_0feab_00001_0062f,
  0xfeac_0fead_00001_00630, 0xfeae_0feaf_00001_00631, 0xfeb0_0feb1_00001_00632,
  0xfeb2_0feb2_00001_00633, 0xfeb3_0feb3_00001_00633, 0xfeb4_0feb5_00001_00633,
  0xfeb6_0feb6_00001_00634, 0xfeb7_0feb7_00001_00634, 0xfeb8_0feb9_00001_00634,
  0xfeba_0feba_00001_00635, 0xfebb_0febb_00001_00635, 0xfebc_0febd_00001_00635,
  0xfebe_0febe_00001_00636, 0xfebf_0febf_00001_00636, 0xfec0_0fec1_00001_00636,
  0xfec2_0fec2_00001_00637, 0xfec3_0fec3_00001_00637, 0xfec4_0fec5_00001_00637,
  0xfec6_0fec6_00001_00638, 0xfec7_0fec7_00001_00638, 0xfec8_0fec9_00001_00638,
  0xfeca_0feca_00001_00639, 0xfecb_0fecb_00001_00639, 0xfecc_0fecd_00001_00639,
  0xfece_0fece_00001_0063a, 0xfecf_0fecf_00001_0063a, 0xfed0_0fed0_00001_0063a,
  0xfed1_0fed1_00001_00641, 0xfed2_0fed2_00001_00641, 0xfed3_0fed3_00001_00641,
  0xfed4_0fed5_00001_00641, 0xfed6_0fed6_00001_00642, 0xfed7_0fed7_00001_00642,
  0xfed8_0fed9_00001_00642, 0xfeda_0feda_00001_00643, 0xfedb_0fedb_00001_00643,
  0xfedc_0fedd_00001_00643, 0xfede_0fede_00001_00644, 0xfedf_0fedf_00001_00644,
  0xfee0_0fee1_00001_00644, 0xfee2_0fee2_00001_00645, 0xfee3_0fee3_00001_00645,
  0xfee4_0fee5_00001_00645, 0xfee6_0fee6_00001_00646, 0xfee7_0fee7_00001_00646,
  0xfee8_0fee9_00001_00646, 0xfeea_0feea_00001_00647, 0xfeeb_0feeb_00001_00647,
  0xfeec_0feed_00001_00647, 0xfeee_0feef_00001_00648, 0xfef0_0fef1_00001_00649,
  0xfef2_0fef2_00001_0064a, 0xfef3_0fef3_00001_0064a, 0xfef4_0fef4_00001_0064a,
  0xff10_0ff19_00001_00030, 0xff21_0ff3a_00001_00041, 0xff3f_0ff3f_00001_0005f,
  0xff41_0ff5a_00001_00061, 0xff66_0ff66_00001_030f2, 0xff67_0ff67_00001_030a1,
  0xff68_0ff68_00001_030a3, 0xff69_0ff69_00001_030a5, 0xff6a_0ff6a_00001_030a7,
  0xff6b_0ff6b_00001_030a9, 0xff6c_0ff6c_00001_030e3, 0xff6d_0ff6d_00001_030e5,
  0xff6e_0ff6e_00001_030e7, 0xff6f_0ff6f_00001_030c3, 0xff70_0ff70_00001_030fc,
  0xff71_0ff71_00001_030a2, 0xff72_0ff72_00001_030a4, 0xff73_0ff73_00001_030a6,
  0xff74_0ff74_00001_030a8, 0xff75_0ff76_00001_030aa, 0xff77_0ff77_00001_030ad,
  0xff78_0ff78_00001_030af, 0xff79_0ff79_00001_030b1, 0xff7a_0ff7a_00001_030b3,
  0xff7b_0ff7b_00001_030b5, 0xff7c_0ff7c_00001_030b7, 0xff7d_0ff7d_00001_030b9,
  0xff7e_0ff7e_00001_030bb, 0xff7f_0ff7f_00001_030bd, 0xff80_0ff80_00001_030bf,
  0xff81_0ff81_00001_030c1, 0xff82_0ff82_00001_030c4, 0xff83_0ff83_00001_030c6,
  0xff84_0ff84_00001_030c8, 0xff85_0ff8a_00001_030ca, 0xff8b_0ff8b_00001_030d2,
  0xff8c_0ff8c_00001_030d5, 0xff8d_0ff8d_00001_030d8, 0xff8e_0ff8e_00001_030db,
  0xff8f_0ff93_00001_030de, 0xff94_0ff94_00001_030e4, 0xff95_0ff95_00001_030e6,
  0xff96_0ff9b_00001_030e8, 0xff9c_0ff9c_00001_030ef, 0xff9d_0ff9d_00001_030f3,
  0xff9e_0ff9f_00001_03099, 0xffa0_0ffa0_00001_01160, 0xffa1_0ffa2_00001_01100,
  0xffa3_0ffa3_00001_011aa, 0xffa4_0ffa4_00001_01102, 0xffa5_0ffa6_00001_011ac,
  0xffa7_0ffa9_00001_01103, 0xffaa_0ffaf_00001_011b0, 0xffb0_0ffb0_00001_0111a,
  0xffb1_0ffb3_00001_01106, 0xffb4_0ffb4_00001_01121, 0xffb5_0ffbe_00001_01109,
  0xffc2_0ffc7_00001_01161, 0xffca_0ffcf_00001_01167, 0xffd2_0ffd7_00001_0116d,
  0xffda_0ffdc_00001_01173, 0x10781_10782_00001_002d0, 0x10783_10783_00001_000e6,
  0x10784_10784_00001_00299, 0x10785_10785_00001_00253, 0x10787_10787_00001_002a3,
  0x10788_10788_00001_0ab66, 0x10789_10789_00001_002a5, 0x1078a_1078a_00001_002a4,
  0x1078b_1078c_00001_00256, 0x1078d_1078d_00001_01d91, 0x1078e_1078e_00001_00258,
  0x1078f_1078f_00001_0025e, 0x10790_10790_00001_002a9, 0x10791_10791_00001_00264,
  0x10792_10792_00001_00262, 0x10793_10793_00001_00260, 0x10794_10794_00001_0029b,
  0x10795_10795_00001_00127, 0x10796_10796_00001_0029c, 0x10797_10797_00001_00267,
  0x10798_10798_00001_00284, 0x10799_1079a_00001_002aa, 0x1079b_1079b_00001_0026c,
  0x1079c_1079c_00001_1df04, 0x1079d_1079d_00001_0a78e, 0x1079e_1079e_00001_0026e,
  0x1079f_1079f_00001_1df05, 0x107a0_107a0_00001_0028e, 0x107a1_107a1_00001_1df06,
  0x107a2_107a2_00001_000f8, 0x107a3_107a4_00001_00276, 0x107a5_107a5_00001_00071,
  0x107a6_107a6_00001_0027a, 0x107a7_107a7_00001_1df08, 0x107a8_107a9_00001_0027d,
  0x107aa_107aa_00001_00280, 0x107ab_107ab_00001_002a8, 0x107ac_107ac_00001_002a6,
  0x107ad_107ad_00001_0ab67, 0x107ae_107ae_00001_002a7, 0x107af_107af_00001_00288,
  0x107b0_107b0_00001_02c71, 0x107b2_107b2_00001_0028f, 0x107b3_107b4_00001_002a1,
  0x107b5_107b5_00001_00298, 0x107b6_107b8_00001_001c0, 0x107b9_107b9_00001_1df0a,
  0x107ba_107ba_00001_1df1e, 0x1d400_1d419_00001_00041, 0x1d41a_1d433_00001_00061,
  0x1d434_1d44d_00001_00041, 0x1d44e_1d454_00001_00061, 0x1d456_1d467_00001_00069,
  0x1d468_1d481_00001_00041, 0x1d482_1d49b_00001_00061, 0x1d49c_1d49c_00001_00041,
  0x1d49e_1d49f_00001_00043, 0x1d4a2_1d4a2_00001_00047, 0x1d4a5_1d4a6_00001_0004a,
  0x1d4a9_1d4ac_00001_0004e, 0x1d4ae_1d4b5_00001_00053, 0x1d4b6_1d4b9_00001_00061,
  0x1d4bb_1d4bb_00001_00066, 0x1d4bd_1d4c3_00001_00068, 0x1d4c5_1d4cf_00001_00070,
  0x1d4d0_1d4e9_00001_00041, 0x1d4ea_1d503_00001_00061, 0x1d504_1d505_00001_00041,
  0x1d507_1d50a_00001_00044, 0x1d50d_1d514_00001_0004a, 0x1d516_1d51c_00001_00053,
  0x1d51e_1d537_00001_00061, 0x1d538_1d539_00001_00041, 0x1d53b_1d53e_00001_00044,
  0x1d540_1d544_00001_00049, 0x1d546_1d546_00001_0004f, 0x1d54a_1d550_00001_00053,
  0x1d552_1d56b_00001_00061, 0x1d56c_1d585_00001_00041, 0x1d586_1d59f_00001_00061,
  0x1d5a0_1d5b9_00001_00041, 0x1d5ba_1d5d3_00001_00061, 0x1d5d4_1d5ed_00001_00041,
  0x1d5ee_1d607_00001_00061, 0x1d608_1d621_00001_00041, 0x1d622_1d63b_00001_00061,
  0x1d63c_1d655_00001_00041, 0x1d656_1d66f_00001_00061, 0x1d670_1d689_00001_00041,
  0x1d68a_1d6a3_00001_00061, 0x1d6a4_1d6a4_00001_00131, 0x1d6a5_1d6a5_00001_00237,
  0x1d6a8_1d6b8_00001_00391, 0x1d6b9_1d6b9_00001_00398, 0x1d6ba_1d6c0_00001_003a3,
  0x1d6c2_1d6da_00001_003b1, 0x1d6dc_1d6dc_00001_003b5, 0x1d6dd_1d6dd_00001_003b8,
  0x1d6de_1d6de_00001_003ba, 0x1d6df_1d6df_00001_003c6, 0x1d6e0_1d6e0_00001_003c1,
  0x1d6e1_1d6e1_00001_003c0, 0x1d6e2_1d6f2_00001_00391, 0x1d6f3_1d6f3_00001_00398,
  0x1d6f4_1d6fa_00001_003a3, 0x1d6fc_1d714_00001_003b1, 0x1d716_1d716_00001_003b5,
  0x1d717_1d717_00001_003b8, 0x1d718_1d718_00001_003ba, 0x1d719_1d719_00001_003c6,
  0x1d71a_1d71a_00001_003c1, 0x1d71b_1d71b_00001_003c0, 0x1d71c_1d72c_00001_00391,
  0x1d72d_1d72d_00001_00398, 0x1d72e_1d734_00001_003a3, 0x1d736_1d74e_00001_003b1,
  0x1d750_1d750_00001_003b5, 0x1d751_1d751_00001_003b8, 0x1d752_1d752_00001_003ba,
  0x1d753_1d753_00001_003c6, 0x1d754_1d754_00001_003c1, 0x1d755_1d755_00001_003c0,
  0x1d756_1d766_00001_00391, 0x1d767_1d767_00001_00398, 0x1d768_1d76e_00001_003a3,
  0x1d770_1d788_00001_003b1, 0x1d78a_1d78a_00001_003b5, 0x1d78b_1d78b_00001_003b8,
  0x1d78c_1d78c_00001_003ba, 0x1d78d_1d78d_00001_003c6, 0x1d78e_1d78e_00001_003c1,
  0x1d78f_1d78f_00001_003c0, 0x1d790_1d7a0_00001_00391, 0x1d7a1_1d7a1_00001_00398,
  0x1d7a2_1d7a8_00001_003a3, 0x1d7aa_1d7c2_00001_003b1, 0x1d7c4_1d7c4_00001_003b5,
  0x1d7c5_1d7c5_00001_003b8, 0x1d7c6_1d7c6_00001_003ba, 0x1d7c7_1d7c7_00001_003c6,
  0x1d7c8_1d7c8_00001_003c1, 0x1d7c9_1d7c9_00001_003c0, 0x1d7ca_1d7cb_00001_003dc,
  0x1d7ce_1d7d7_00001_00030, 0x1d7d8_1d7e1_00001_00030, 0x1d7e2_1d7eb_00001_00030,
  0x1d7ec_1d7f5_00001_00030, 0x1d7f6_1d7ff_00001_00030, 0x1ee00_1ee01_00001_00627,
  0x1ee02_1ee02_00001_0062c, 0x1ee03_1ee03_00001_0062f, 0x1ee05_1ee05_00001_00648,
  0x1ee06_1ee06_00001_00632, 0x1ee07_1ee07_00001_0062d, 0x1ee08_1ee08_00001_00637,
  0x1ee09_1ee09_00001_0064a, 0x1ee0a_1ee0d_00001_00643, 0x1ee0e_1ee0e_00001_00633,
  0x1ee0f_1ee0f_00001_00639, 0x1ee10_1ee10_00001_00641, 0x1ee11_1ee11_00001_00635,
  0x1ee12_1ee12_00001_00642, 0x1ee13_1ee13_00001_00631, 0x1ee14_1ee14_00001_00634,
  0x1ee15_1ee16_00001_0062a, 0x1ee17_1ee17_00001_0062e, 0x1ee18_1ee18_00001_00630,
  0x1ee19_1ee19_00001_00636, 0x1ee1a_1ee1a_00001_00638, 0x1ee1b_1ee1b_00001_0063a,
  0x1ee1c_1ee1c_00001_0066e, 0x1ee1d_1ee1d_00001_006ba, 0x1ee1e_1ee1e_00001_006a1,
  0x1ee1f_1ee1f_00001_0066f, 0x1ee21_1ee21_00001_00628, 0x1ee22_1ee22_00001_0062c,
  0x1ee24_1ee24_00001_00647, 0x1ee27_1ee27_00001_0062d, 0x1ee29_1ee29_00001_0064a,
  0x1ee2a_1ee2d_00001_00643, 0x1ee2e_1ee2e_00001_00633, 0x1ee2f_1ee2f_00001_00639,
  0x1ee30_1ee30_00001_00641, 0x1ee31_1ee31_00001_00635, 0x1ee32_1ee32_00001_00642,
  0x1ee34_1ee34_00001_00634, 0x1ee35_1ee36_00001_0062a, 0x1ee37_1ee37_00001_0062e,
  0x1ee39_1ee39_00001_00636, 0x1ee3b_1ee3b_00001_0063a, 0x1ee42_1ee42_00001_0062c,
  0x1ee47_1ee47_00001_0062d, 0x1ee49_1ee49_00001_0064a, 0x1ee4b_1ee4b_00001_00644,
  0x1ee4d_1ee4d_00001_00646, 0x1ee4e_1ee4e_00001_00633, 0x1ee4f_1ee4f_00001_00639,
  0x1ee51_1ee51_00001_00635, 0x1ee52_1ee52_00001_00642, 0x1ee54_1ee54_00001_00634,
  0x1ee57_1ee57_00001_0062e, 0x1ee59_1ee59_00001_00636, 0x1ee5b_1ee5b_00001_0063a,
  0x1ee5d_1ee5d_00001_006ba, 0x1ee5f_1ee5f_00001_0066f, 0x1ee61_1ee61_00001_00628,
  0x1ee62_1ee62_00001_0062c, 0x1ee64_1ee64_00001_00647, 0x1ee67_1ee67_00001_0062d,
  0x1ee68_1ee68_00001_00637, 0x1ee69_1ee69_00001_0064a, 0x1ee6a_1ee6a_00001_00643,
  0x1ee6c_1ee6d_00001_00645, 0x1ee6e_1ee6e_00001_00633, 0x1ee6f_1ee6f_00001_00639,
  0x1ee70_1ee70_00001_00641, 0x1ee71_1ee71_00001_00635, 0x1ee72_1ee72_00001_00642,
  0x1ee74_1ee74_00001_00634, 0x1ee75_1ee76_00001_0062a, 0x1ee77_1ee77_00001_0062e,
  0x1ee79_1ee79_00001_00636, 0x1ee7a_1ee7a_00001_00638, 0x1ee7b_1ee7b_00001_0063a,
  0x1ee7c_1ee7c_00001_0066e, 0x1ee7e_1ee7e_00001_006a1, 0x1ee80_1ee81_00001_00627,
  0x1ee82_1ee82_00001_0062c, 0x1ee83_1ee83_00001_0062f, 0x1ee84_1ee85_00001_00647,
  0x1ee86_1ee86_00001_00632, 0x1ee87_1ee87_00001_0062d, 0x1ee88_1ee88_00001_00637,
  0x1ee89_1ee89_00001_0064a, 0x1ee8b_1ee8d_00001_00644, 0x1ee8e_1ee8e_00001_00633,
  0x1ee8f_1ee8f_00001_00639, 0x1ee90_1ee90_00001_00641, 0x1ee91_1ee91_00001_00635,
  0x1ee92_1ee92_00001_00642, 0x1ee93_1ee93_00001_00631, 0x1ee94_1ee94_00001_00634,
  0x1ee95_1ee96_00001_0062a, 0x1ee97_1ee97_00001_0062e, 0x1ee98_1ee98_00001_00630,
  0x1ee99_1ee99_00001_00636, 0x1ee9a_1ee9a_00001_00638, 0x1ee9b_1ee9b_00001_0063a,
  0x1eea1_1eea1_00001_00628, 0x1eea2_1eea2_00001_0062c, 0x1eea3_1eea3_00001_0062f,
  0x1eea5_1eea5_00001_00648, 0x1eea6_1eea6_00001_00632, 0x1eea7_1eea7_00001_0062d,
  0x1eea8_1eea8_00001_00637, 0x1eea9_1eea9_00001_0064a, 0x1eeab_1eead_00001_00644,
  0x1eeae_1eeae_00001_00633, 0x1eeaf_1eeaf_00001_00639, 0x1eeb0_1eeb0_00001_00641,
  0x1eeb1_1eeb1_00001_00635, 0x1eeb2_1eeb2_00001_00642, 0x1eeb3_1eeb3_00001_00631,
  0x1eeb4_1eeb4_00001_00634, 0x1eeb5_1eeb6_00001_0062a, 0x1eeb7_1eeb7_00001_0062e,
  0x1eeb8_1eeb8_00001_00630, 0x1eeb9_1eeb9_00001_00636, 0x1eeba_1eeba_00001_00638,
  0x1eebb_1eebb_00001_0063a, 0x1fbf0_1fbf9_00001_00030, 0x2f800_2f800_00001_04e3d,
  0x2f801_2f801_00001_04e38, 0x2f802_2f802_00001_04e41, 0x2f803_2f803_00001_20122,
  0x2f804_2f804_00001_04f60, 0x2f805_2f805_00001_04fae, 0x2f806_2f806_00001_04fbb,
  0x2f807_2f807_00001_05002, 0x2f808_2f808_00001_0507a, 0x2f809_2f809_00001_05099,
  0x2f80a_2f80a_00001_050e7, 0x2f80b_2f80b_00001_050cf, 0x2f80c_2f80c_00001_0349e,
  0x2f80d_2f80d_00001_2063a, 0x2f80e_2f80e_00001_0514d, 0x2f80f_2f80f_00001_05154,
  0x2f810_2f810_00001_05164, 0x2f811_2f811_00001_05177, 0x2f812_2f812_00001_2051c,
  0x2f813_2f813_00001_034b9, 0x2f814_2f814_00001_05167, 0x2f815_2f815_00001_0518d,
  0x2f816_2f816_00001_2054b, 0x2f817_2f817_00001_05197, 0x2f818_2f818_00001_051a4,
  0x2f819_2f819_00001_04ecc, 0x2f81a_2f81a_00001_051ac, 0x2f81b_2f81b_00001_051b5,
  0x2f81c_2f81c_00001_291df, 0x2f81d_2f81d_00001_051f5, 0x2f81e_2f81e_00001_05203,
  0x2f81f_2f81f_00001_034df, 0x2f820_2f820_00001_0523b, 0x2f821_2f821_00001_05246,
  0x2f822_2f822_00001_05272, 0x2f823_2f823_00001_05277, 0x2f824_2f824_00001_03515,
  0x2f825_2f825_00001_052c7, 0x2f826_2f826_00001_052c9, 0x2f827_2f827_00001_052e4,
  0x2f828_2f828_00001_052fa, 0x2f829_2f82a_00001_05305, 0x2f82b_2f82b_00001_05317,
  0x2f82c_2f82c_00001_05349, 0x2f82d_2f82d_00001_05351, 0x2f82e_2f82e_00001_0535a,
  0x2f82f_2f82f_00001_05373, 0x2f830_2f830_00001_0537d, 0x2f831_2f831_00001_0537f,
  0x2f832_2f832_00001_0537f, 0x2f833_2f833_00001_0537f, 0x2f834_2f834_00001_20a2c,
  0x2f835_2f835_00001_07070, 0x2f836_2f836_00001_053ca, 0x2f837_2f837_00001_053df,
  0x2f838_2f838_00001_20b63, 0x2f839_2f839_00001_053eb, 0x2f83a_2f83a_00001_053f1,
  0x2f83b_2f83b_00001_05406, 0x2f83c_2f83c_00001_0549e, 0x2f83d_2f83d_00001_05438,
  0x2f83e_2f83e_00001_05448, 0x2f83f_2f83f_00001_05468, 0x2f840_2f840_00001_054a2,
  0x2f841_2f841_00001_054f6, 0x2f842_2f842_00001_05510, 0x2f843_2f843_00001_05553,
  0x2f844_2f844_00001_05563, 0x2f845_2f845_00001_05584, 0x2f846_2f846_00001_05584,
  0x2f847_2f847_00001_05599, 0x2f848_2f848_00001_055ab, 0x2f849_2f849_00001_055b3,
  0x2f84a_2f84a_00001_055c2, 0x2f84b_2f84b_00001_05716, 0x2f84c_2f84c_00001_05606,
  0x2f84d_2f84d_00001_05717, 0x2f84e_2f84e_00001_05651, 0x2f84f_2f84f_00001_05674,
  0x2f850_2f850_00001_05207, 0x2f851_2f851_00001_058ee, 0x2f852_2f852_00001_057ce,
  0x2f853_2f853_00001_057f4, 0x2f854_2f854_00001_0580d, 0x2f855_2f855_00001_0578b,
  0x2f856_2f856_00001_05832, 0x2f857_2f857_00001_05831, 0x2f858_2f858_00001_058ac,
  0x2f859_2f859_00001_214e4, 0x2f85a_2f85a_00001_058f2, 0x2f85b_2f85b_00001_058f7,
  0x2f85c_2f85c_00001_05906, 0x2f85d_2f85d_00001_0591a, 0x2f85e_2f85e_00001_05922,
  0x2f85f_2f85f_00001_05962, 0x2f860_2f860_00001_216a8, 0x2f861_2f861_00001_216ea,
  0x2f862_2f862_00001_059ec, 0x2f863_2f863_00001_05a1b, 0x2f864_2f864_00001_05a27,
  0x2f865_2f865_00001_059d8, 0x2f866_2f866_00001_05a66, 0x2f867_2f867_00001_036ee,
  0x2f868_2f868_00001_036fc, 0x2f869_2f869_00001_05b08, 0x2f86a_2f86a_00001_05b3e,
  0x2f86b_2f86b_00001_05b3e, 0x2f86c_2f86c_00001_219c8, 0x2f86d_2f86d_00001_05bc3,
  0x2f86e_2f86e_00001_05bd8, 0x2f86f_2f86f_00001_05be7, 0x2f870_2f870_00001_05bf3,
  0x2f871_2f871_00001_21b18, 0x2f872_2f872_00001_05bff, 0x2f873_2f873_00001_05c06,
  0x2f874_2f874_00001_05f53, 0x2f875_2f875_00001_05c22, 0x2f876_2f876_00001_03781,
  0x2f877_2f877_00001_05c60, 0x2f878_2f878_00001_05c6e, 0x2f879_2f879_00001_05cc0,
  0x2f87a_2f87a_00001_05c8d, 0x2f87b_2f87b_00001_21de4, 0x2f87c_2f87c_00001_05d43,
  0x2f87d_2f87d_00001_21de6, 0x2f87e_2f87e_00001_05d6e, 0x2f87f_2f87f_00001_05d6b,
  0x2f880_2f880_00001_05d7c, 0x2f881_2f882_00001_05de1, 0x2f883_2f883_00001_0382f,
  0x2f884_2f884_00001_05dfd, 0x2f885_2f885_00001_05e28, 0x2f886_2f886_00001_05e3d,
  0x2f887_2f887_00001_05e69, 0x2f888_2f888_00001_03862, 0x2f889_2f889_00001_22183,
  0x2f88a_2f88a_00001_0387c, 0x2f88b_2f88b_00001_05eb0, 0x2f88c_2f88c_00001_05eb3,
  0x2f88d_2f88d_00001_05eb6, 0x2f88e_2f88e_00001_05eca, 0x2f88f_2f88f_00001_2a392,
  0x2f890_2f890_00001_05efe, 0x2f891_2f891_00001_22331, 0x2f892_2f892_00001_22331,
  0x2f893_2f893_00001_08201, 0x2f894_2f894_00001_05f22, 0x2f895_2f895_00001_05f22,
  0x2f896_2f896_00001_038c7, 0x2f897_2f897_00001_232b8, 0x2f898_2f898_00001_261da,
  0x2f899_2f899_00001_05f62, 0x2f89a_2f89a_00001_05f6b, 0x2f89b_2f89b_00001_038e3,
  0x2f89c_2f89c_00001_05f9a, 0x2f89d_2f89d_00001_05fcd, 0x2f89e_2f89e_00001_05fd7,
  0x2f89f_2f89f_00001_05ff9, 0x2f8a0_2f8a0_00001_06081, 0x2f8a1_2f8a1_00001_0393a,
  0x2f8a2_2f8a2_00001_0391c, 0x2f8a3_2f8a3_00001_06094, 0x2f8a4_2f8a4_00001_226d4,
  0x2f8a5_2f8a5_00001_060c7, 0x2f8a6_2f8a6_00001_06148, 0x2f8a7_2f8a7_00001_0614c,
  0x2f8a8_2f8a8_00001_0614e, 0x2f8a9_2f8a9_00001_0614c, 0x2f8aa_2f8aa_00001_0617a,
  0x2f8ab_2f8ab_00001_0618e, 0x2f8ac_2f8ac_00001_061b2, 0x2f8ad_2f8ad_00001_061a4,
  0x2f8ae_2f8ae_00001_061af, 0x2f8af_2f8af_00001_061de, 0x2f8b0_2f8b0_00001_061f2,
  0x2f8b1_2f8b1_00001_061f6, 0x2f8b2_2f8b2_00001_06210, 0x2f8b3_2f8b3_00001_0621b,
  0x2f8b4_2f8b4_00001_0625d, 0x2f8b5_2f8b5_00001_062b1, 0x2f8b6_2f8b6_00001_062d4,
  0x2f8b7_2f8b7_00001_06350, 0x2f8b8_2f8b8_00001_22b0c, 0x2f8b9_2f8b9_00001_0633d,
  0x2f8ba_2f8ba_00001_062fc, 0x2f8bb_2f8bb_00001_06368, 0x2f8bc_2f8bc_00001_06383,
  0x2f8bd_2f8bd_00001_063e4, 0x2f8be_2f8be_00001_22bf1, 0x2f8bf_2f8bf_00001_06422,
  0x2f8c0_2f8c0_00001_063c5, 0x2f8c1_2f8c1_00001_063a9, 0x2f8c2_2f8c2_00001_03a2e,
  0x2f8c3_2f8c3_00001_06469, 0x2f8c4_2f8c4_00001_0647e, 0x2f8c5_2f8c5_00001_0649d,
  0x2f8c6_2f8c6_00001_06477, 0x2f8c7_2f8c7_00001_03a6c, 0x2f8c8_2f8c8_00001_0654f,
  0x2f8c9_2f8c9_00001_0656c, 0x2f8ca_2f8ca_00001_2300a, 0x2f8cb_2f8cb_00001_065e3,
  0x2f8cc_2f8cc_00001_066f8, 0x2f8cd_2f8cd_00001_06649, 0x2f8ce_2f8ce_00001_03b19,
  0x2f8cf_2f8cf_00001_06691, 0x2f8d0_2f8d0_00001_03b08, 0x2f8d1_2f8d1_00001_03ae4,
  0x2f8d2_2f8d2_00001_05192, 0x2f8d3_2f8d3_00001_05195, 0x2f8d4_2f8d4_00001_06700,
  0x2f8d5_2f8d5_00001_0669c, 0x2f8d6_2f8d6_00001_080ad, 0x2f8d7_2f8d7_00001_043d9,
  0x2f8d8_2f8d8_00001_06717, 0x2f8d9_2f8d9_00001_0671b, 0x2f8da_2f8da_00001_06721,
  0x2f8db_2f8db_00001_0675e, 0x2f8dc_2f8dc_00001_06753, 0x2f8dd_2f8dd_00001_233c3,
  0x2f8de_2f8de_00001_03b49, 0x2f8df_2f8df_00001_067fa, 0x2f8e0_2f8e0_00001_06785,
  0x2f8e1_2f8e1_00001_06852, 0x2f8e2_2f8e2_00001_06885, 0x2f8e3_2f8e3_00001_2346d,
  0x2f8e4_2f8e4_00001_0688e, 0x2f8e5_2f8e5_00001_0681f, 0x2f8e6_2f8e6_00001_06914,
  0x2f8e7_2f8e7_00001_03b9d, 0x2f8e8_2f8e8_00001_06942, 0x2f8e9_2f8e9_00001_069a3,
  0x2f8ea_2f8ea_00001_069ea, 0x2f8eb_2f8eb_00001_06aa8, 0x2f8ec_2f8ec_00001_236a3,
  0x2f8ed_2f8ed_00001_06adb, 0x2f8ee_2f8ee_00001_03c18, 0x2f8ef_2f8ef_00001_06b21,
  0x2f8f0_2f8f0_00001_238a7, 0x2f8f1_2f8f1_00001_06b54, 0x2f8f2_2f8f2_00001_03c4e,
  0x2f8f3_2f8f3_00001_06b72, 0x2f8f4_2f8f4_00001_06b9f, 0x2f8f5_2f8f6_00001_06bba,
  0x2f8f7_2f8f7_00001_23a8d, 0x2f8f8_2f8f8_00001_21d0b, 0x2f8f9_2f8f9_00001_23afa,
  0x2f8fa_2f8fa_00001_06c4e, 0x2f8fb_2f8fb_00001_23cbc, 0x2f8fc_2f8fc_00001_06cbf,
  0x2f8fd_2f8fd_00001_06ccd, 0x2f8fe_2f8fe_00001_06c67, 0x2f8ff_2f8ff_00001_06d16,
  0x2f900_2f900_00001_06d3e, 0x2f901_2f901_00001_06d77, 0x2f902_2f902_00001_06d41,
  0x2f903_2f903_00001_06d69, 0x2f904_2f904_00001_06d78, 0x2f905_2f905_00001_06d85,
  0x2f906_2f906_00001_23d1e, 0x2f907_2f907_00001_06d34, 0x2f908_2f908_00001_06e2f,
  0x2f909_2f909_00001_06e6e, 0x2f90a_2f90a_00001_03d33, 0x2f90b_2f90b_00001_06ecb,
  0x2f90c_2f90c_00001_06ec7, 0x2f90d_2f90d_00001_23ed1, 0x2f90e_2f90e_00001_06df9,
  0x2f90f_2f90f_00001_06f6e, 0x2f910_2f910_00001_23f5e, 0x2f911_2f911_00001_23f8e,
  0x2f912_2f912_00001_06fc6, 0x2f913_2f913_00001_07039, 0x2f914_2f914_00001_0701e,
  0x2f915_2f915_00001_0701b, 0x2f916_2f916_00001_03d96, 0x2f917_2f917_00001_0704a,
  0x2f918_2f918_00001_0707d, 0x2f919_2f919_00001_07077, 0x2f91a_2f91a_00001_070ad,
  0x2f91b_2f91b_00001_20525, 0x2f91c_2f91c_00001_07145, 0x2f91d_2f91d_00001_24263,
  0x2f91e_2f91e_00001_0719c, 0x2f91f_2f91f_00001_243ab, 0x2f920_2f920_00001_07228,
  0x2f921_2f921_00001_07235, 0x2f922_2f922_00001_07250, 0x2f923_2f923_00001_24608,
  0x2f924_2f924_00001_07280, 0x2f925_2f925_00001_07295, 0x2f926_2f926_00001_24735,
  0x2f927_2f927_00001_24814, 0x2f928_2f928_00001_0737a, 0x2f929_2f929_00001_0738b,
  0x2f92a_2f92a_00001_03eac, 0x2f92b_2f92b_00001_073a5, 0x2f92c_2f92c_00001_03eb8,
  0x2f92d_2f92d_00001_03eb8, 0x2f92e_2f92e_00001_07447, 0x2f92f_2f92f_00001_0745c,
  0x2f930_2f930_00001_07471, 0x2f931_2f931_00001_07485, 0x2f932_2f932_00001_074ca,
  0x2f933_2f933_00001_03f1b, 0x2f934_2f934_00001_07524, 0x2f935_2f935_00001_24c36,
  0x2f936_2f936_00001_0753e, 0x2f937_2f937_00001_24c92, 0x2f938_2f938_00001_07570,
  0x2f939_2f939_00001_2219f, 0x2f93a_2f93a_00001_07610, 0x2f93b_2f93b_00001_24fa1,
  0x2f93c_2f93c_00001_24fb8, 0x2f93d_2f93d_00001_25044, 0x2f93e_2f93e_00001_03ffc,
  0x2f93f_2f93f_00001_04008, 0x2f940_2f940_00001_076f4, 0x2f941_2f941_00001_250f3,
  0x2f942_2f942_00001_250f2, 0x2f943_2f943_00001_25119, 0x2f944_2f944_00001_25133,
  0x2f945_2f946_00001_0771e, 0x2f947_2f947_00001_0771f, 0x2f948_2f948_00001_0774a,
  0x2f949_2f949_00001_04039, 0x2f94a_2f94a_00001_0778b, 0x2f94b_2f94b_00001_04046,
  0x2f94c_2f94c_00001_04096, 0x2f94d_2f94d_00001_2541d, 0x2f94e_2f94e_00001_0784e,
  0x2f94f_2f94f_00001_0788c, 0x2f950_2f950_00001_078cc, 0x2f951_2f951_00001_040e3,
  0x2f952_2f952_00001_25626, 0x2f953_2f953_00001_07956, 0x2f954_2f954_00001_2569a,
  0x2f955_2f955_00001_256c5, 0x2f956_2f956_00001_0798f, 0x2f957_2f957_00001_079eb,
  0x2f958_2f958_00001_0412f, 0x2f959_2f959_00001_07a40, 0x2f95a_2f95a_00001_07a4a,
  0x2f95b_2f95b_00001_07a4f, 0x2f95c_2f95c_00001_2597c, 0x2f95d_2f95d_00001_25aa7,
  0x2f95e_2f95e_00001_25aa7, 0x2f95f_2f95f_00001_07aee, 0x2f960_2f960_00001_04202,
  0x2f961_2f961_00001_25bab, 0x2f962_2f962_00001_07bc6, 0x2f963_2f963_00001_07bc9,
  0x2f964_2f964_00001_04227, 0x2f965_2f965_00001_25c80, 0x2f966_2f966_00001_07cd2,
  0x2f967_2f967_00001_042a0, 0x2f968_2f968_00001_07ce8, 0x2f969_2f969_00001_07ce3,
  0x2f96a_2f96a_00001_07d00, 0x2f96b_2f96b_00001_25f86, 0x2f96c_2f96c_00001_07d63,
  0x2f96d_2f96d_00001_04301, 0x2f96e_2f96e_00001_07dc7, 0x2f96f_2f96f_00001_07e02,
  0x2f970_2f970_00001_07e45, 0x2f971_2f971_00001_04334, 0x2f972_2f972_00001_26228,
  0x2f973_2f973_00001_26247, 0x2f974_2f974_00001_04359, 0x2f975_2f975_00001_262d9,
  0x2f976_2f976_00001_07f7a, 0x2f977_2f977_00001_2633e, 0x2f978_2f978_00001_07f95,
  0x2f979_2f979_00001_07ffa, 0x2f97a_2f97a_00001_08005, 0x2f97b_2f97b_00001_264da,
  0x2f97c_2f97c_00001_26523, 0x2f97d_2f97d_00001_08060, 0x2f97e_2f97e_00001_265a8,
  0x2f97f_2f97f_00001_08070, 0x2f980_2f980_00001_2335f, 0x2f981_2f981_00001_043d5,
  0x2f982_2f982_00001_080b2, 0x2f983_2f983_00001_08103, 0x2f984_2f984_00001_0440b,
  0x2f985_2f985_00001_0813e, 0x2f986_2f986_00001_05ab5, 0x2f987_2f987_00001_267a7,
  0x2f988_2f988_00001_267b5, 0x2f989_2f989_00001_23393, 0x2f98a_2f98a_00001_2339c,
  0x2f98b_2f98b_00001_08201, 0x2f98c_2f98c_00001_08204, 0x2f98d_2f98d_00001_08f9e,
  0x2f98e_2f98e_00001_0446b, 0x2f98f_2f98f_00001_08291, 0x2f990_2f990_00001_0828b,
  0x2f991_2f991_00001_0829d, 0x2f992_2f992_00001_052b3, 0x2f993_2f993_00001_082b1,
  0x2f994_2f994_00001_082b3, 0x2f995_2f995_00001_082bd, 0x2f996_2f996_00001_082e6,
  0x2f997_2f997_00001_26b3c, 0x2f998_2f998_00001_082e5, 0x2f999_2f999_00001_0831d,
  0x2f99a_2f99a_00001_08363, 0x2f99b_2f99b_00001_083ad, 0x2f99c_2f99c_00001_08323,
  0x2f99d_2f99d_00001_083bd, 0x2f99e_2f99e_00001_083e7, 0x2f99f_2f99f_00001_08457,
  0x2f9a0_2f9a0_00001_08353, 0x2f9a1_2f9a1_00001_083ca, 0x2f9a2_2f9a2_00001_083cc,
  0x2f9a3_2f9a3_00001_083dc, 0x2f9a4_2f9a4_00001_26c36, 0x2f9a5_2f9a5_00001_26d6b,
  0x2f9a6_2f9a6_00001_26cd5, 0x2f9a7_2f9a7_00001_0452b, 0x2f9a8_2f9a8_00001_084f1,
  0x2f9a9_2f9a9_00001_084f3, 0x2f9aa_2f9aa_00001_08516, 0x2f9ab_2f9ab_00001_273ca,
  0x2f9ac_2f9ac_00001_08564, 0x2f9ad_2f9ad_00001_26f2c, 0x2f9ae_2f9ae_00001_0455d,
  0x2f9af_2f9af_00001_04561, 0x2f9b0_2f9b0_00001_26fb1, 0x2f9b1_2f9b1_00001_270d2,
  0x2f9b2_2f9b2_00001_0456b, 0x2f9b3_2f9b3_00001_08650, 0x2f9b4_2f9b4_00001_0865c,
  0x2f9b5_2f9b5_00001_08667, 0x2f9b6_2f9b6_00001_08669, 0x2f9b7_2f9b7_00001_086a9,
  0x2f9b8_2f9b8_00001_08688, 0x2f9b9_2f9b9_00001_0870e, 0x2f9ba_2f9ba_00001_086e2,
  0x2f9bb_2f9bb_00001_08779, 0x2f9bc_2f9bc_00001_08728, 0x2f9bd_2f9bd_00001_0876b,
  0x2f9be_2f9be_00001_08786, 0x2f9bf_2f9bf_00001_045d7, 0x2f9c0_2f9c0_00001_087e1,
  0x2f9c1_2f9c1_00001_08801, 0x2f9c2_2f9c2_00001_045f9, 0x2f9c3_2f9c3_00001_08860,
  0x2f9c4_2f9c4_00001_08863, 0x2f9c5_2f9c5_00001_27667, 0x2f9c6_2f9c6_00001_088d7,
  0x2f9c7_2f9c7_00001_088de, 0x2f9c8_2f9c8_00001_04635, 0x2f9c9_2f9c9_00001_088fa,
  0x2f9ca_2f9ca_00001_034bb, 0x2f9cb_2f9cb_00001_278ae, 0x2f9cc_2f9cc_00001_27966,
  0x2f9cd_2f9cd_00001_046be, 0x2f9ce_2f9ce_00001_046c7, 0x2f9cf_2f9cf_00001_08aa0,
  0x2f9d0_2f9d0_00001_08aed, 0x2f9d1_2f9d1_00001_08b8a, 0x2f9d2_2f9d2_00001_08c55,
  0x2f9d3_2f9d3_00001_27ca8, 0x2f9d4_2f9d4_00001_08cab, 0x2f9d5_2f9d5_00001_08cc1,
  0x2f9d6_2f9d6_00001_08d1b, 0x2f9d7_2f9d7_00001_08d77, 0x2f9d8_2f9d8_00001_27f2f,
  0x2f9d9_2f9d9_00001_20804, 0x2f9da_2f9da_00001_08dcb, 0x2f9db_2f9db_00001_08dbc,
  0x2f9dc_2f9dc_00001_08df0, 0x2f9dd_2f9dd_00001_208de, 0x2f9de_2f9de_00001_08ed4,
  0x2f9df_2f9df_00001_08f38, 0x2f9e0_2f9e0_00001_285d2, 0x2f9e1_2f9e1_00001_285ed,
  0x2f9e2_2f9e2_00001_09094, 0x2f9e3_2f9e3_00001_090f1, 0x2f9e4_2f9e4_00001_09111,
  0x2f9e5_2f9e5_00001_2872e, 0x2f9e6_2f9e6_00001_0911b, 0x2f9e7_2f9e7_00001_09238,
  0x2f9e8_2f9e9_00001_092d7, 0x2f9ea_2f9ea_00001_0927c, 0x2f9eb_2f9eb_00001_093f9,
  0x2f9ec_2f9ec_00001_09415, 0x2f9ed_2f9ed_00001_28bfa, 0x2f9ee_2f9ee_00001_0958b,
  0x2f9ef_2f9ef_00001_04995, 0x2f9f0_2f9f0_00001_095b7, 0x2f9f1_2f9f1_00001_28d77,
  0x2f9f2_2f9f2_00001_049e6, 0x2f9f3_2f9f3_00001_096c3, 0x2f9f4_2f9f4_00001_05db2,
  0x2f9f5_2f9f5_00001_09723, 0x2f9f6_2f9f6_00001_29145, 0x2f9f7_2f9f7_00001_2921a,
  0x2f9f8_2f9f8_00001_04a6e, 0x2f9f9_2f9f9_00001_04a76, 0x2f9fa_2f9fa_00001_097e0,
  0x2f9fb_2f9fb_00001_2940a, 0x2f9fc_2f9fc_00001_04ab2, 0x2f9fd_2f9fd_00001_29496,
  0x2f9fe_2f9fe_00001_0980b, 0x2f9ff_2f9ff_00001_0980b, 0x2fa00_2fa00_00001_09829,
  0x2fa01_2fa01_00001_295b6, 0x2fa02_2fa02_00001_098e2, 0x2fa03_2fa03_00001_04b33,
  0x2fa04_2fa04_00001_09929, 0x2fa05_2fa05_00001_099a7, 0x2fa06_2fa06_00001_099c2,
  0x2fa07_2fa07_00001_099fe, 0x2fa08_2fa08_00001_04bce, 0x2fa09_2fa09_00001_29b30,
  0x2fa0a_2fa0a_00001_09b12, 0x2fa0b_2fa0b_00001_09c40, 0x2fa0c_2fa0c_00001_09cfd,
  0x2fa0d_2fa0d_00001_04cce, 0x2fa0e_2fa0e_00001_04ced, 0x2fa0f_2fa0f_00001_09d67,
  0x2fa10_2fa10_00001_2a0ce, 0x2fa11_2fa11_00001_04cf8, 0x2fa12_2fa12_00001_2a105,
  0x2fa13_2fa13_00001_2a20e, 0x2fa14_2fa14_00001_2a291, 0x2fa15_2fa15_00001_09ebb,
  0x2fa16_2fa16_00001_04d56, 0x2fa17_2fa17_00001_09ef9, 0x2fa18_2fa18_00001_09efe,
  0x2fa19_2fa19_00001_09f05, 0x2fa1a_2fa1a_00001_09f0f, 0x2fa1b_2fa1b_00001_09f16,
  0x2fa1c_2fa1c_00001_09f3b, 0x2fa1d_2fa1d_00001_2a600]

/-- Characters that stand for several: the character and what it stands for. -/
def decompositions : List (List Nat) := rowsOf [
  0xc0_00041_00300, 0xc1_00041_00301, 0xc2_00041_00302, 0xc3_00041_00303, 0xc4_00041_00308,
  0xc5_00041_0030a, 0xc7_00043_00327, 0xc8_00045_00300, 0xc9_00045_00301, 0xca_00045_00302,
  0xcb_00045_00308, 0xcc_00049_00300, 0xcd_00049_00301, 0xce_00049_00302, 0xcf_00049_00308,
  0xd1_0004e_00303, 0xd2_0004f_00300, 0xd3_0004f_00301, 0xd4_0004f_00302, 0xd5_0004f_00303,
  0xd6_0004f_00308, 0xd9_00055_00300, 0xda_00055_00301, 0xdb_00055_00302, 0xdc_00055_00308,
  0xdd_00059_00301, 0xe0_00061_00300, 0xe1_00061_00301, 0xe2_00061_00302, 0xe3_00061_00303,
  0xe4_00061_00308, 0xe5_00061_0030a, 0xe7_00063_00327, 0xe8_00065_00300, 0xe9_00065_00301,
  0xea_00065_00302, 0xeb_00065_00308, 0xec_00069_00300, 0xed_00069_00301, 0xee_00069_00302,
  0xef_00069_00308, 0xf1_0006e_00303, 0xf2_0006f_00300, 0xf3_0006f_00301, 0xf4_0006f_00302,
  0xf5_0006f_00303, 0xf6_0006f_00308, 0xf9_00075_00300, 0xfa_00075_00301, 0xfb_00075_00302,
  0xfc_00075_00308, 0xfd_00079_00301, 0xff_00079_00308, 0x100_00041_00304, 0x101_00061_00304,
  0x102_00041_00306, 0x103_00061_00306, 0x104_00041_00328, 0x105_00061_00328, 0x106_00043_00301,
  0x107_00063_00301, 0x108_00043_00302, 0x109_00063_00302, 0x10a_00043_00307, 0x10b_00063_00307,
  0x10c_00043_0030c, 0x10d_00063_0030c, 0x10e_00044_0030c, 0x10f_00064_0030c, 0x112_00045_00304,
  0x113_00065_00304, 0x114_00045_00306, 0x115_00065_00306, 0x116_00045_00307, 0x117_00065_00307,
  0x118_00045_00328, 0x119_00065_00328, 0x11a_00045_0030c, 0x11b_00065_0030c, 0x11c_00047_00302,
  0x11d_00067_00302, 0x11e_00047_00306, 0x11f_00067_00306, 0x120_00047_00307, 0x121_00067_00307,
  0x122_00047_00327, 0x123_00067_00327, 0x124_00048_00302, 0x125_00068_00302, 0x128_00049_00303,
  0x129_00069_00303, 0x12a_00049_00304, 0x12b_00069_00304, 0x12c_00049_00306, 0x12d_00069_00306,
  0x12e_00049_00328, 0x12f_00069_00328, 0x130_00049_00307, 0x132_00049_0004a, 0x133_00069_0006a,
  0x134_0004a_00302, 0x135_0006a_00302, 0x136_0004b_00327, 0x137_0006b_00327, 0x139_0004c_00301,
  0x13a_0006c_00301, 0x13b_0004c_00327, 0x13c_0006c_00327, 0x13d_0004c_0030c, 0x13e_0006c_0030c,
  0x13f_0004c_000b7, 0x140_0006c_000b7, 0x143_0004e_00301, 0x144_0006e_00301, 0x145_0004e_00327,
  0x146_0006e_00327, 0x147_0004e_0030c, 0x148_0006e_0030c, 0x149_002bc_0006e, 0x14c_0004f_00304,
  0x14d_0006f_00304, 0x14e_0004f_00306, 0x14f_0006f_00306, 0x150_0004f_0030b, 0x151_0006f_0030b,
  0x154_00052_00301, 0x155_00072_00301, 0x156_00052_00327, 0x157_00072_00327, 0x158_00052_0030c,
  0x159_00072_0030c, 0x15a_00053_00301, 0x15b_00073_00301, 0x15c_00053_00302, 0x15d_00073_00302,
  0x15e_00053_00327, 0x15f_00073_00327, 0x160_00053_0030c, 0x161_00073_0030c, 0x162_00054_00327,
  0x163_00074_00327, 0x164_00054_0030c, 0x165_00074_0030c, 0x168_00055_00303, 0x169_00075_00303,
  0x16a_00055_00304, 0x16b_00075_00304, 0x16c_00055_00306, 0x16d_00075_00306, 0x16e_00055_0030a,
  0x16f_00075_0030a, 0x170_00055_0030b, 0x171_00075_0030b, 0x172_00055_00328, 0x173_00075_00328,
  0x174_00057_00302, 0x175_00077_00302, 0x176_00059_00302, 0x177_00079_00302, 0x178_00059_00308,
  0x179_0005a_00301, 0x17a_0007a_00301, 0x17b_0005a_00307, 0x17c_0007a_00307, 0x17d_0005a_0030c,
  0x17e_0007a_0030c, 0x1a0_0004f_0031b, 0x1a1_0006f_0031b, 0x1af_00055_0031b, 0x1b0_00075_0031b,
  0x1c4_00044_0005a_0030c, 0x1c5_00044_0007a_0030c, 0x1c6_00064_0007a_0030c, 0x1c7_0004c_0004a,
  0x1c8_0004c_0006a, 0x1c9_0006c_0006a, 0x1ca_0004e_0004a, 0x1cb_0004e_0006a, 0x1cc_0006e_0006a,
  0x1cd_00041_0030c, 0x1ce_00061_0030c, 0x1cf_00049_0030c, 0x1d0_00069_0030c, 0x1d1_0004f_0030c,
  0x1d2_0006f_0030c, 0x1d3_00055_0030c, 0x1d4_00075_0030c, 0x1d5_00055_00308_00304,
  0x1d6_00075_00308_00304, 0x1d7_00055_00308_00301, 0x1d8_00075_00308_00301,
  0x1d9_00055_00308_0030c, 0x1da_00075_00308_0030c, 0x1db_00055_00308_00300,
  0x1dc_00075_00308_00300, 0x1de_00041_00308_00304, 0x1df_00061_00308_00304,
  0x1e0_00041_00307_00304, 0x1e1_00061_00307_00304, 0x1e2_000c6_00304, 0x1e3_000e6_00304,
  0x1e6_00047_0030c, 0x1e7_00067_0030c, 0x1e8_0004b_0030c, 0x1e9_0006b_0030c, 0x1ea_0004f_00328,
  0x1eb_0006f_00328, 0x1ec_0004f_00328_00304, 0x1ed_0006f_00328_00304, 0x1ee_001b7_0030c,
  0x1ef_00292_0030c, 0x1f0_0006a_0030c, 0x1f1_00044_0005a, 0x1f2_00044_0007a, 0x1f3_00064_0007a,
  0x1f4_00047_00301, 0x1f5_00067_00301, 0x1f8_0004e_00300, 0x1f9_0006e_00300,
  0x1fa_00041_0030a_00301, 0x1fb_00061_0030a_00301, 0x1fc_000c6_00301, 0x1fd_000e6_00301,
  0x1fe_000d8_00301, 0x1ff_000f8_00301, 0x200_00041_0030f, 0x201_00061_0030f, 0x202_00041_00311,
  0x203_00061_00311, 0x204_00045_0030f, 0x205_00065_0030f, 0x206_00045_00311, 0x207_00065_00311,
  0x208_00049_0030f, 0x209_00069_0030f, 0x20a_00049_00311, 0x20b_00069_00311, 0x20c_0004f_0030f,
  0x20d_0006f_0030f, 0x20e_0004f_00311, 0x20f_0006f_00311, 0x210_00052_0030f, 0x211_00072_0030f,
  0x212_00052_00311, 0x213_00072_00311, 0x214_00055_0030f, 0x215_00075_0030f, 0x216_00055_00311,
  0x217_00075_00311, 0x218_00053_00326, 0x219_00073_00326, 0x21a_00054_00326, 0x21b_00074_00326,
  0x21e_00048_0030c, 0x21f_00068_0030c, 0x226_00041_00307, 0x227_00061_00307, 0x228_00045_00327,
  0x229_00065_00327, 0x22a_0004f_00308_00304, 0x22b_0006f_00308_00304, 0x22c_0004f_00303_00304,
  0x22d_0006f_00303_00304, 0x22e_0004f_00307, 0x22f_0006f_00307, 0x230_0004f_00307_00304,
  0x231_0006f_00307_00304, 0x232_00059_00304, 0x233_00079_00304, 0x344_00308_00301,
  0x386_00391_00301, 0x388_00395_00301, 0x389_00397_00301, 0x38a_00399_00301, 0x38c_0039f_00301,
  0x38e_003a5_00301, 0x38f_003a9_00301, 0x390_003b9_00308_00301, 0x3aa_00399_00308,
  0x3ab_003a5_00308, 0x3ac_003b1_00301, 0x3ad_003b5_00301, 0x3ae_003b7_00301, 0x3af_003b9_00301,
  0x3b0_003c5_00308_00301, 0x3ca_003b9_00308, 0x3cb_003c5_00308, 0x3cc_003bf_00301,
  0x3cd_003c5_00301, 0x3ce_003c9_00301, 0x3d3_003a5_00301, 0x3d4_003a5_00308, 0x400_00415_00300,
  0x401_00415_00308, 0x403_00413_00301, 0x407_00406_00308, 0x40c_0041a_00301, 0x40d_00418_00300,
  0x40e_00423_00306, 0x419_00418_00306, 0x439_00438_00306, 0x450_00435_00300, 0x451_00435_00308,
  0x453_00433_00301, 0x457_00456_00308, 0x45c_0043a_00301, 0x45d_00438_00300, 0x45e_00443_00306,
  0x476_00474_0030f, 0x477_00475_0030f, 0x4c1_00416_00306, 0x4c2_00436_00306, 0x4d0_00410_00306,
  0x4d1_00430_00306, 0x4d2_00410_00308, 0x4d3_00430_00308, 0x4d6_00415_00306, 0x4d7_00435_00306,
  0x4da_004d8_00308, 0x4db_004d9_00308, 0x4dc_00416_00308, 0x4dd_00436_00308, 0x4de_00417_00308,
  0x4df_00437_00308, 0x4e2_00418_00304, 0x4e3_00438_00304, 0x4e4_00418_00308, 0x4e5_00438_00308,
  0x4e6_0041e_00308, 0x4e7_0043e_00308, 0x4ea_004e8_00308, 0x4eb_004e9_00308, 0x4ec_0042d_00308,
  0x4ed_0044d_00308, 0x4ee_00423_00304, 0x4ef_00443_00304, 0x4f0_00423_00308, 0x4f1_00443_00308,
  0x4f2_00423_0030b, 0x4f3_00443_0030b, 0x4f4_00427_00308, 0x4f5_00447_00308, 0x4f8_0042b_00308,
  0x4f9_0044b_00308, 0x587_00565_00582, 0x622_00627_00653, 0x623_00627_00654, 0x624_00648_00654,
  0x625_00627_00655, 0x626_0064a_00654, 0x675_00627_00674, 0x676_00648_00674, 0x677_006c7_00674,
  0x678_0064a_00674, 0x6c0_006d5_00654, 0x6c2_006c1_00654, 0x6d3_006d2_00654, 0x929_00928_0093c,
  0x931_00930_0093c, 0x934_00933_0093c, 0x958_00915_0093c, 0x959_00916_0093c, 0x95a_00917_0093c,
  0x95b_0091c_0093c, 0x95c_00921_0093c, 0x95d_00922_0093c, 0x95e_0092b_0093c, 0x95f_0092f_0093c,
  0x9cb_009c7_009be, 0x9cc_009c7_009d7, 0x9dc_009a1_009bc, 0x9dd_009a2_009bc, 0x9df_009af_009bc,
  0xa33_00a32_00a3c, 0xa36_00a38_00a3c, 0xa59_00a16_00a3c, 0xa5a_00a17_00a3c, 0xa5b_00a1c_00a3c,
  0xa5e_00a2b_00a3c, 0xb48_00b47_00b56, 0xb4b_00b47_00b3e, 0xb4c_00b47_00b57, 0xb5c_00b21_00b3c,
  0xb5d_00b22_00b3c, 0xb94_00b92_00bd7, 0xbca_00bc6_00bbe, 0xbcb_00bc7_00bbe, 0xbcc_00bc6_00bd7,
  0xc48_00c46_00c56, 0xcc0_00cbf_00cd5, 0xcc7_00cc6_00cd5, 0xcc8_00cc6_00cd6, 0xcca_00cc6_00cc2,
  0xccb_00cc6_00cc2_00cd5, 0xd4a_00d46_00d3e, 0xd4b_00d47_00d3e, 0xd4c_00d46_00d57,
  0xdda_00dd9_00dca, 0xddc_00dd9_00dcf, 0xddd_00dd9_00dcf_00dca, 0xdde_00dd9_00ddf,
  0xe33_00e4d_00e32, 0xeb3_00ecd_00eb2, 0xedc_00eab_00e99, 0xedd_00eab_00ea1, 0xf43_00f42_00fb7,
  0xf4d_00f4c_00fb7, 0xf52_00f51_00fb7, 0xf57_00f56_00fb7, 0xf5c_00f5b_00fb7, 0xf69_00f40_00fb5,
  0xf73_00f71_00f72, 0xf75_00f71_00f74, 0xf76_00fb2_00f80, 0xf77_00fb2_00f71_00f80,
  0xf78_00fb3_00f80, 0xf79_00fb3_00f71_00f80, 0xf81_00f71_00f80, 0xf93_00f92_00fb7,
  0xf9d_00f9c_00fb7, 0xfa2_00fa1_00fb7, 0xfa7_00fa6_00fb7, 0xfac_00fab_00fb7, 0xfb9_00f90_00fb5,
  0x1026_01025_0102e, 0x1b06_01b05_01b35, 0x1b08_01b07_01b35, 0x1b0a_01b09_01b35,
  0x1b0c_01b0b_01b35, 0x1b0e_01b0d_01b35, 0x1b12_01b11_01b35, 0x1b3b_01b3a_01b35,
  0x1b3d_01b3c_01b35, 0x1b40_01b3e_01b35, 0x1b41_01b3f_01b35, 0x1b43_01b42_01b35,
  0x1e00_00041_00325, 0x1e01_00061_00325, 0x1e02_00042_00307, 0x1e03_00062_00307,
  0x1e04_00042_00323, 0x1e05_00062_00323, 0x1e06_00042_00331, 0x1e07_00062_00331,
  0x1e08_00043_00327_00301, 0x1e09_00063_00327_00301, 0x1e0a_00044_00307, 0x1e0b_00064_00307,
  0x1e0c_00044_00323, 0x1e0d_00064_00323, 0x1e0e_00044_00331, 0x1e0f_00064_00331,
  0x1e10_00044_00327, 0x1e11_00064_00327, 0x1e12_00044_0032d, 0x1e13_00064_0032d,
  0x1e14_00045_00304_00300, 0x1e15_00065_00304_00300, 0x1e16_00045_00304_00301,
  0x1e17_00065_00304_00301, 0x1e18_00045_0032d, 0x1e19_00065_0032d, 0x1e1a_00045_00330,
  0x1e1b_00065_00330, 0x1e1c_00045_00327_00306, 0x1e1d_00065_00327_00306, 0x1e1e_00046_00307,
  0x1e1f_00066_00307, 0x1e20_00047_00304, 0x1e21_00067_00304, 0x1e22_00048_00307,
  0x1e23_00068_00307, 0x1e24_00048_00323, 0x1e25_00068_00323, 0x1e26_00048_00308,
  0x1e27_00068_00308, 0x1e28_00048_00327, 0x1e29_00068_00327, 0x1e2a_00048_0032e,
  0x1e2b_00068_0032e, 0x1e2c_00049_00330, 0x1e2d_00069_00330, 0x1e2e_00049_00308_00301,
  0x1e2f_00069_00308_00301, 0x1e30_0004b_00301, 0x1e31_0006b_00301, 0x1e32_0004b_00323,
  0x1e33_0006b_00323, 0x1e34_0004b_00331, 0x1e35_0006b_00331, 0x1e36_0004c_00323,
  0x1e37_0006c_00323, 0x1e38_0004c_00323_00304, 0x1e39_0006c_00323_00304, 0x1e3a_0004c_00331,
  0x1e3b_0006c_00331, 0x1e3c_0004c_0032d, 0x1e3d_0006c_0032d, 0x1e3e_0004d_00301,
  0x1e3f_0006d_00301, 0x1e40_0004d_00307, 0x1e41_0006d_00307, 0x1e42_0004d_00323,
  0x1e43_0006d_00323, 0x1e44_0004e_00307, 0x1e45_0006e_00307, 0x1e46_0004e_00323,
  0x1e47_0006e_00323, 0x1e48_0004e_00331, 0x1e49_0006e_00331, 0x1e4a_0004e_0032d,
  0x1e4b_0006e_0032d, 0x1e4c_0004f_00303_00301, 0x1e4d_0006f_00303_00301, 0x1e4e_0004f_00303_00308,
  0x1e4f_0006f_00303_00308, 0x1e50_0004f_00304_00300, 0x1e51_0006f_00304_00300,
  0x1e52_0004f_00304_00301, 0x1e53_0006f_00304_00301, 0x1e54_00050_00301, 0x1e55_00070_00301,
  0x1e56_00050_00307, 0x1e57_00070_00307, 0x1e58_00052_00307, 0x1e59_00072_00307,
  0x1e5a_00052_00323, 0x1e5b_00072_00323, 0x1e5c_00052_00323_00304, 0x1e5d_00072_00323_00304,
  0x1e5e_00052_00331, 0x1e5f_00072_00331, 0x1e60_00053_00307, 0x1e61_00073_00307,
  0x1e62_00053_00323, 0x1e63_00073_00323, 0x1e64_00053_00301_00307, 0x1e65_00073_00301_00307,
  0x1e66_00053_0030c_00307, 0x1e67_00073_0030c_00307, 0x1e68_00053_00323_00307,
  0x1e69_00073_00323_00307, 0x1e6a_00054_00307, 0x1e6b_00074_00307, 0x1e6c_00054_00323,
  0x1e6d_00074_00323, 0x1e6e_00054_00331, 0x1e6f_00074_00331, 0x1e70_00054_0032d,
  0x1e71_00074_0032d, 0x1e72_00055_00324, 0x1e73_00075_00324, 0x1e74_00055_00330,
  0x1e75_00075_00330, 0x1e76_00055_0032d, 0x1e77_00075_0032d, 0x1e78_00055_00303_00301,
  0x1e79_00075_00303_00301, 0x1e7a_00055_00304_00308, 0x1e7b_00075_00304_00308, 0x1e7c_00056_00303,
  0x1e7d_00076_00303, 0x1e7e_00056_00323, 0x1e7f_00076_00323, 0x1e80_00057_00300,
  0x1e81_00077_00300, 0x1e82_00057_00301, 0x1e83_00077_00301, 0x1e84_00057_00308,
  0x1e85_00077_00308, 0x1e86_00057_00307, 0x1e87_00077_00307, 0x1e88_00057_00323,
  0x1e89_00077_00323, 0x1e8a_00058_00307, 0x1e8b_00078_00307, 0x1e8c_00058_00308,
  0x1e8d_00078_00308, 0x1e8e_00059_00307, 0x1e8f_00079_00307, 0x1e90_0005a_00302,
  0x1e91_0007a_00302, 0x1e92_0005a_00323, 0x1e93_0007a_00323, 0x1e94_0005a_00331,
  0x1e95_0007a_00331, 0x1e96_00068_00331, 0x1e97_00074_00308, 0x1e98_00077_0030a,
  0x1e99_00079_0030a, 0x1e9a_00061_002be, 0x1e9b_00073_00307, 0x1ea0_00041_00323,
  0x1ea1_00061_00323, 0x1ea2_00041_00309, 0x1ea3_00061_00309, 0x1ea4_00041_00302_00301,
  0x1ea5_00061_00302_00301, 0x1ea6_00041_00302_00300, 0x1ea7_00061_00302_00300,
  0x1ea8_00041_00302_00309, 0x1ea9_00061_00302_00309, 0x1eaa_00041_00302_00303,
  0x1eab_00061_00302_00303, 0x1eac_00041_00323_00302, 0x1ead_00061_00323_00302,
  0x1eae_00041_00306_00301, 0x1eaf_00061_00306_00301, 0x1eb0_00041_00306_00300,
  0x1eb1_00061_00306_00300, 0x1eb2_00041_00306_00309, 0x1eb3_00061_00306_00309,
  0x1eb4_00041_00306_00303, 0x1eb5_00061_00306_00303, 0x1eb6_00041_00323_00306,
  0x1eb7_00061_00323_00306, 0x1eb8_00045_00323, 0x1eb9_00065_00323, 0x1eba_00045_00309,
  0x1ebb_00065_00309, 0x1ebc_00045_00303, 0x1ebd_00065_00303, 0x1ebe_00045_00302_00301,
  0x1ebf_00065_00302_00301, 0x1ec0_00045_00302_00300, 0x1ec1_00065_00302_00300,
  0x1ec2_00045_00302_00309, 0x1ec3_00065_00302_00309, 0x1ec4_00045_00302_00303,
  0x1ec5_00065_00302_00303, 0x1ec6_00045_00323_00302, 0x1ec7_00065_00323_00302, 0x1ec8_00049_00309,
  0x1ec9_00069_00309, 0x1eca_00049_00323, 0x1ecb_00069_00323, 0x1ecc_0004f_00323,
  0x1ecd_0006f_00323, 0x1ece_0004f_00309, 0x1ecf_0006f_00309, 0x1ed0_0004f_00302_00301,
  0x1ed1_0006f_00302_00301, 0x1ed2_0004f_00302_00300, 0x1ed3_0006f_00302_00300,
  0x1ed4_0004f_00302_00309, 0x1ed5_0006f_00302_00309, 0x1ed6_0004f_00302_00303,
  0x1ed7_0006f_00302_00303, 0x1ed8_0004f_00323_00302, 0x1ed9_0006f_00323_00302,
  0x1eda_0004f_0031b_00301, 0x1edb_0006f_0031b_00301, 0x1edc_0004f_0031b_00300,
  0x1edd_0006f_0031b_00300, 0x1ede_0004f_0031b_00309, 0x1edf_0006f_0031b_00309,
  0x1ee0_0004f_0031b_00303, 0x1ee1_0006f_0031b_00303, 0x1ee2_0004f_0031b_00323,
  0x1ee3_0006f_0031b_00323, 0x1ee4_00055_00323, 0x1ee5_00075_00323, 0x1ee6_00055_00309,
  0x1ee7_00075_00309, 0x1ee8_00055_0031b_00301, 0x1ee9_00075_0031b_00301, 0x1eea_00055_0031b_00300,
  0x1eeb_00075_0031b_00300, 0x1eec_00055_0031b_00309, 0x1eed_00075_0031b_00309,
  0x1eee_00055_0031b_00303, 0x1eef_00075_0031b_00303, 0x1ef0_00055_0031b_00323,
  0x1ef1_00075_0031b_00323, 0x1ef2_00059_00300, 0x1ef3_00079_00300, 0x1ef4_00059_00323,
  0x1ef5_00079_00323, 0x1ef6_00059_00309, 0x1ef7_00079_00309, 0x1ef8_00059_00303,
  0x1ef9_00079_00303, 0x1f00_003b1_00313, 0x1f01_003b1_00314, 0x1f02_003b1_00313_00300,
  0x1f03_003b1_00314_00300, 0x1f04_003b1_00313_00301, 0x1f05_003b1_00314_00301,
  0x1f06_003b1_00313_00342, 0x1f07_003b1_00314_00342, 0x1f08_00391_00313, 0x1f09_00391_00314,
  0x1f0a_00391_00313_00300, 0x1f0b_00391_00314_00300, 0x1f0c_00391_00313_00301,
  0x1f0d_00391_00314_00301, 0x1f0e_00391_00313_00342, 0x1f0f_00391_00314_00342, 0x1f10_003b5_00313,
  0x1f11_003b5_00314, 0x1f12_003b5_00313_00300, 0x1f13_003b5_00314_00300, 0x1f14_003b5_00313_00301,
  0x1f15_003b5_00314_00301, 0x1f18_00395_00313, 0x1f19_00395_00314, 0x1f1a_00395_00313_00300,
  0x1f1b_00395_00314_00300, 0x1f1c_00395_00313_00301, 0x1f1d_00395_00314_00301, 0x1f20_003b7_00313,
  0x1f21_003b7_00314, 0x1f22_003b7_00313_00300, 0x1f23_003b7_00314_00300, 0x1f24_003b7_00313_00301,
  0x1f25_003b7_00314_00301, 0x1f26_003b7_00313_00342, 0x1f27_003b7_00314_00342, 0x1f28_00397_00313,
  0x1f29_00397_00314, 0x1f2a_00397_00313_00300, 0x1f2b_00397_00314_00300, 0x1f2c_00397_00313_00301,
  0x1f2d_00397_00314_00301, 0x1f2e_00397_00313_00342, 0x1f2f_00397_00314_00342, 0x1f30_003b9_00313,
  0x1f31_003b9_00314, 0x1f32_003b9_00313_00300, 0x1f33_003b9_00314_00300, 0x1f34_003b9_00313_00301,
  0x1f35_003b9_00314_00301, 0x1f36_003b9_00313_00342, 0x1f37_003b9_00314_00342, 0x1f38_00399_00313,
  0x1f39_00399_00314, 0x1f3a_00399_00313_00300, 0x1f3b_00399_00314_00300, 0x1f3c_00399_00313_00301,
  0x1f3d_00399_00314_00301, 0x1f3e_00399_00313_00342, 0x1f3f_00399_00314_00342, 0x1f40_003bf_00313,
  0x1f41_003bf_00314, 0x1f42_003bf_00313_00300, 0x1f43_003bf_00314_00300, 0x1f44_003bf_00313_00301,
  0x1f45_003bf_00314_00301, 0x1f48_0039f_00313, 0x1f49_0039f_00314, 0x1f4a_0039f_00313_00300,
  0x1f4b_0039f_00314_00300, 0x1f4c_0039f_00313_00301, 0x1f4d_0039f_00314_00301, 0x1f50_003c5_00313,
  0x1f51_003c5_00314, 0x1f52_003c5_00313_00300, 0x1f53_003c5_00314_00300, 0x1f54_003c5_00313_00301,
  0x1f55_003c5_00314_00301, 0x1f56_003c5_00313_00342, 0x1f57_003c5_00314_00342, 0x1f59_003a5_00314,
  0x1f5b_003a5_00314_00300, 0x1f5d_003a5_00314_00301, 0x1f5f_003a5_00314_00342, 0x1f60_003c9_00313,
  0x1f61_003c9_00314, 0x1f62_003c9_00313_00300, 0x1f63_003c9_00314_00300, 0x1f64_003c9_00313_00301,
  0x1f65_003c9_00314_00301, 0x1f66_003c9_00313_00342, 0x1f67_003c9_00314_00342, 0x1f68_003a9_00313,
  0x1f69_003a9_00314, 0x1f6a_003a9_00313_00300, 0x1f6b_003a9_00314_00300, 0x1f6c_003a9_00313_00301,
  0x1f6d_003a9_00314_00301, 0x1f6e_003a9_00313_00342, 0x1f6f_003a9_00314_00342, 0x1f70_003b1_00300,
  0x1f71_003b1_00301, 0x1f72_003b5_00300, 0x1f73_003b5_00301, 0x1f74_003b7_00300,
  0x1f75_003b7_00301, 0x1f76_003b9_00300, 0x1f77_003b9_00301, 0x1f78_003bf_00300,
  0x1f79_003bf_00301, 0x1f7a_003c5_00300, 0x1f7b_003c5_00301, 0x1f7c_003c9_00300,
  0x1f7d_003c9_00301, 0x1f80_003b1_00313_00345, 0x1f81_003b1_00314_00345,
  0x1f82_003b1_00313_00300_00345, 0x1f83_003b1_00314_00300_00345, 0x1f84_003b1_00313_00301_00345,
  0x1f85_003b1_00314_00301_00345, 0x1f86_003b1_00313_00342_00345, 0x1f87_003b1_00314_00342_00345,
  0x1f88_00391_00313_00345, 0x1f89_00391_00314_00345, 0x1f8a_00391_00313_00300_00345,
  0x1f8b_00391_00314_00300_00345, 0x1f8c_00391_00313_00301_00345, 0x1f8d_00391_00314_00301_00345,
  0x1f8e_00391_00313_00342_00345, 0x1f8f_00391_00314_00342_00345, 0x1f90_003b7_00313_00345,
  0x1f91_003b7_00314_00345, 0x1f92_003b7_00313_00300_00345, 0x1f93_003b7_00314_00300_00345,
  0x1f94_003b7_00313_00301_00345, 0x1f95_003b7_00314_00301_00345, 0x1f96_003b7_00313_00342_00345,
  0x1f97_003b7_00314_00342_00345, 0x1f98_00397_00313_00345, 0x1f99_00397_00314_00345,
  0x1f9a_00397_00313_00300_00345, 0x1f9b_00397_00314_00300_00345, 0x1f9c_00397_00313_00301_00345,
  0x1f9d_00397_00314_00301_00345, 0x1f9e_00397_00313_00342_00345, 0x1f9f_00397_00314_00342_00345,
  0x1fa0_003c9_00313_00345, 0x1fa1_003c9_00314_00345, 0x1fa2_003c9_00313_00300_00345,
  0x1fa3_003c9_00314_00300_00345, 0x1fa4_003c9_00313_00301_00345, 0x1fa5_003c9_00314_00301_00345,
  0x1fa6_003c9_00313_00342_00345, 0x1fa7_003c9_00314_00342_00345, 0x1fa8_003a9_00313_00345,
  0x1fa9_003a9_00314_00345, 0x1faa_003a9_00313_00300_00345, 0x1fab_003a9_00314_00300_00345,
  0x1fac_003a9_00313_00301_00345, 0x1fad_003a9_00314_00301_00345, 0x1fae_003a9_00313_00342_00345,
  0x1faf_003a9_00314_00342_00345, 0x1fb0_003b1_00306, 0x1fb1_003b1_00304, 0x1fb2_003b1_00300_00345,
  0x1fb3_003b1_00345, 0x1fb4_003b1_00301_00345, 0x1fb6_003b1_00342, 0x1fb7_003b1_00342_00345,
  0x1fb8_00391_00306, 0x1fb9_00391_00304, 0x1fba_00391_00300, 0x1fbb_00391_00301,
  0x1fbc_00391_00345, 0x1fc2_003b7_00300_00345, 0x1fc3_003b7_00345, 0x1fc4_003b7_00301_00345,
  0x1fc6_003b7_00342, 0x1fc7_003b7_00342_00345, 0x1fc8_00395_00300, 0x1fc9_00395_00301,
  0x1fca_00397_00300, 0x1fcb_00397_00301, 0x1fcc_00397_00345, 0x1fd0_003b9_00306,
  0x1fd1_003b9_00304, 0x1fd2_003b9_00308_00300, 0x1fd3_003b9_00308_00301, 0x1fd6_003b9_00342,
  0x1fd7_003b9_00308_00342, 0x1fd8_00399_00306, 0x1fd9_00399_00304, 0x1fda_00399_00300,
  0x1fdb_00399_00301, 0x1fe0_003c5_00306, 0x1fe1_003c5_00304, 0x1fe2_003c5_00308_00300,
  0x1fe3_003c5_00308_00301, 0x1fe4_003c1_00313, 0x1fe5_003c1_00314, 0x1fe6_003c5_00342,
  0x1fe7_003c5_00308_00342, 0x1fe8_003a5_00306, 0x1fe9_003a5_00304, 0x1fea_003a5_00300,
  0x1feb_003a5_00301, 0x1fec_003a1_00314, 0x1ff2_003c9_00300_00345, 0x1ff3_003c9_00345,
  0x1ff4_003c9_00301_00345, 0x1ff6_003c9_00342, 0x1ff7_003c9_00342_00345, 0x1ff8_0039f_00300,
  0x1ff9_0039f_00301, 0x1ffa_003a9_00300, 0x1ffb_003a9_00301, 0x1ffc_003a9_00345,
  0x212b_00041_0030a, 0x2161_00049_00049, 0x2162_00049_00049_00049, 0x2163_00049_00056,
  0x2165_00056_00049, 0x2166_00056_00049_00049, 0x2167_00056_00049_00049_00049, 0x2168_00049_00058,
  0x216a_00058_00049, 0x216b_00058_00049_00049, 0x2171_00069_00069, 0x2172_00069_00069_00069,
  0x2173_00069_00076, 0x2175_00076_00069, 0x2176_00076_00069_00069, 0x2177_00076_00069_00069_00069,
  0x2178_00069_00078, 0x217a_00078_00069, 0x217b_00078_00069_00069, 0x304c_0304b_03099,
  0x304e_0304d_03099, 0x3050_0304f_03099, 0x3052_03051_03099, 0x3054_03053_03099,
  0x3056_03055_03099, 0x3058_03057_03099, 0x305a_03059_03099, 0x305c_0305b_03099,
  0x305e_0305d_03099, 0x3060_0305f_03099, 0x3062_03061_03099, 0x3065_03064_03099,
  0x3067_03066_03099, 0x3069_03068_03099, 0x3070_0306f_03099, 0x3071_0306f_0309a,
  0x3073_03072_03099, 0x3074_03072_0309a, 0x3076_03075_03099, 0x3077_03075_0309a,
  0x3079_03078_03099, 0x307a_03078_0309a, 0x307c_0307b_03099, 0x307d_0307b_0309a,
  0x3094_03046_03099, 0x309e_0309d_03099, 0x309f_03088_0308a, 0x30ac_030ab_03099,
  0x30ae_030ad_03099, 0x30b0_030af_03099, 0x30b2_030b1_03099, 0x30b4_030b3_03099,
  0x30b6_030b5_03099, 0x30b8_030b7_03099, 0x30ba_030b9_03099, 0x30bc_030bb_03099,
  0x30be_030bd_03099, 0x30c0_030bf_03099, 0x30c2_030c1_03099, 0x30c5_030c4_03099,
  0x30c7_030c6_03099, 0x30c9_030c8_03099, 0x30d0_030cf_03099, 0x30d1_030cf_0309a,
  0x30d3_030d2_03099, 0x30d4_030d2_0309a, 0x30d6_030d5_03099, 0x30d7_030d5_0309a,
  0x30d9_030d8_03099, 0x30da_030d8_0309a, 0x30dc_030db_03099, 0x30dd_030db_0309a,
  0x30f4_030a6_03099, 0x30f7_030ef_03099, 0x30f8_030f0_03099, 0x30f9_030f1_03099,
  0x30fa_030f2_03099, 0x30fe_030fd_03099, 0x30ff_030b3_030c8, 0xfb00_00066_00066,
  0xfb01_00066_00069, 0xfb02_00066_0006c, 0xfb03_00066_00066_00069, 0xfb04_00066_00066_0006c,
  0xfb05_00073_00074, 0xfb06_00073_00074, 0xfb13_00574_00576, 0xfb14_00574_00565,
  0xfb15_00574_0056b, 0xfb16_0057e_00576, 0xfb17_00574_0056d, 0xfb1d_005d9_005b4,
  0xfb1f_005f2_005b7, 0xfb2a_005e9_005c1, 0xfb2b_005e9_005c2, 0xfb2c_005e9_005bc_005c1,
  0xfb2d_005e9_005bc_005c2, 0xfb2e_005d0_005b7, 0xfb2f_005d0_005b8, 0xfb30_005d0_005bc,
  0xfb31_005d1_005bc, 0xfb32_005d2_005bc, 0xfb33_005d3_005bc, 0xfb34_005d4_005bc,
  0xfb35_005d5_005bc, 0xfb36_005d6_005bc, 0xfb38_005d8_005bc, 0xfb39_005d9_005bc,
  0xfb3a_005da_005bc, 0xfb3b_005db_005bc, 0xfb3c_005dc_005bc, 0xfb3e_005de_005bc,
  0xfb40_005e0_005bc, 0xfb41_005e1_005bc, 0xfb43_005e3_005bc, 0xfb44_005e4_005bc,
  0xfb46_005e6_005bc, 0xfb47_005e7_005bc, 0xfb48_005e8_005bc, 0xfb49_005e9_005bc,
  0xfb4a_005ea_005bc, 0xfb4b_005d5_005b9, 0xfb4c_005d1_005bf, 0xfb4d_005db_005bf,
  0xfb4e_005e4_005bf, 0xfb4f_005d0_005dc, 0xfba4_006d5_00654, 0xfba5_006d5_00654,
  0xfbb0_006d2_00654, 0xfbb1_006d2_00654, 0xfbdd_006c7_00674, 0xfbea_0064a_00654_00627,
  0xfbeb_0064a_00654_00627, 0xfbec_0064a_00654_006d5, 0xfbed_0064a_00654_006d5,
  0xfbee_0064a_00654_00648, 0xfbef_0064a_00654_00648, 0xfbf0_0064a_00654_006c7,
  0xfbf1_0064a_00654_006c7, 0xfbf2_0064a_00654_006c6, 0xfbf3_0064a_00654_006c6,
  0xfbf4_0064a_00654_006c8, 0xfbf5_0064a_00654_006c8, 0xfbf6_0064a_00654_006d0,
  0xfbf7_0064a_00654_006d0, 0xfbf8_0064a_00654_006d0, 0xfbf9_0064a_00654_00649,
  0xfbfa_0064a_00654_00649, 0xfbfb_0064a_00654_00649, 0xfc00_0064a_00654_0062c,
  0xfc01_0064a_00654_0062d, 0xfc02_0064a_00654_00645, 0xfc03_0064a_00654_00649,
  0xfc04_0064a_00654_0064a, 0xfc05_00628_0062c, 0xfc06_00628_0062d, 0xfc07_00628_0062e,
  0xfc08_00628_00645, 0xfc09_00628_00649, 0xfc0a_00628_0064a, 0xfc0b_0062a_0062c,
  0xfc0c_0062a_0062d, 0xfc0d_0062a_0062e, 0xfc0e_0062a_00645, 0xfc0f_0062a_00649,
  0xfc10_0062a_0064a, 0xfc11_0062b_0062c, 0xfc12_0062b_00645, 0xfc13_0062b_00649,
  0xfc14_0062b_0064a, 0xfc15_0062c_0062d, 0xfc16_0062c_00645, 0xfc17_0062d_0062c,
  0xfc18_0062d_00645, 0xfc19_0062e_0062c, 0xfc1a_0062e_0062d, 0xfc1b_0062e_00645,
  0xfc1c_00633_0062c, 0xfc1d_00633_0062d, 0xfc1e_00633_0062e, 0xfc1f_00633_00645,
  0xfc20_00635_0062d, 0xfc21_00635_00645, 0xfc22_00636_0062c, 0xfc23_00636_0062d,
  0xfc24_00636_0062e, 0xfc25_00636_00645, 0xfc26_00637_0062d, 0xfc27_00637_00645,
  0xfc28_00638_00645, 0xfc29_00639_0062c, 0xfc2a_00639_00645, 0xfc2b_0063a_0062c,
  0xfc2c_0063a_00645, 0xfc2d_00641_0062c, 0xfc2e_00641_0062d, 0xfc2f_00641_0062e,
  0xfc30_00641_00645, 0xfc31_00641_00649, 0xfc32_00641_0064a, 0xfc33_00642_0062d,
  0xfc34_00642_00645, 0xfc35_00642_00649, 0xfc36_00642_0064a, 0xfc37_00643_00627,
  0xfc38_00643_0062c, 0xfc39_00643_0062d, 0xfc3a_00643_0062e, 0xfc3b_00643_00644,
  0xfc3c_00643_00645, 0xfc3d_00643_00649, 0xfc3e_00643_0064a, 0xfc3f_00644_0062c,
  0xfc40_00644_0062d, 0xfc41_00644_0062e, 0xfc42_00644_00645, 0xfc43_00644_00649,
  0xfc44_00644_0064a, 0xfc45_00645_0062c, 0xfc46_00645_0062d, 0xfc47_00645_0062e,
  0xfc48_00645_00645, 0xfc49_00645_00649, 0xfc4a_00645_0064a, 0xfc4b_00646_0062c,
  0xfc4c_00646_0062d, 0xfc4d_00646_0062e, 0xfc4e_00646_00645, 0xfc4f_00646_00649,
  0xfc50_00646_0064a, 0xfc51_00647_0062c, 0xfc52_00647_00645, 0xfc53_00647_00649,
  0xfc54_00647_0064a, 0xfc55_0064a_0062c, 0xfc56_0064a_0062d, 0xfc57_0064a_0062e,
  0xfc58_0064a_00645, 0xfc59_0064a_00649, 0xfc5a_0064a_0064a, 0xfc5b_00630_00670,
  0xfc5c_00631_00670, 0xfc5d_00649_00670, 0xfc64_0064a_00654_00631, 0xfc65_0064a_00654_00632,
  0xfc66_0064a_00654_00645, 0xfc67_0064a_00654_00646, 0xfc68_0064a_00654_00649,
  0xfc69_0064a_00654_0064a, 0xfc6a_00628_00631, 0xfc6b_00628_00632, 0xfc6c_00628_00645,
  0xfc6d_00628_00646, 0xfc6e_00628_00649, 0xfc6f_00628_0064a, 0xfc70_0062a_00631,
  0xfc71_0062a_00632, 0xfc72_0062a_00645, 0xfc73_0062a_00646, 0xfc74_0062a_00649,
  0xfc75_0062a_0064a, 0xfc76_0062b_00631, 0xfc77_0062b_00632, 0xfc78_0062b_00645,
  0xfc79_0062b_00646, 0xfc7a_0062b_00649, 0xfc7b_0062b_0064a, 0xfc7c_00641_00649,
  0xfc7d_00641_0064a, 0xfc7e_00642_00649, 0xfc7f_00642_0064a, 0xfc80_00643_00627,
  0xfc81_00643_00644, 0xfc82_00643_00645, 0xfc83_00643_00649, 0xfc84_00643_0064a,
  0xfc85_00644_00645, 0xfc86_00644_00649, 0xfc87_00644_0064a, 0xfc88_00645_00627,
  0xfc89_00645_00645, 0xfc8a_00646_00631, 0xfc8b_00646_00632, 0xfc8c_00646_00645,
  0xfc8d_00646_00646, 0xfc8e_00646_00649, 0xfc8f_00646_0064a, 0xfc90_00649_00670,
  0xfc91_0064a_00631, 0xfc92_0064a_00632, 0xfc93_0064a_00645, 0xfc94_0064a_00646,
  0xfc95_0064a_00649, 0xfc96_0064a_0064a, 0xfc97_0064a_00654_0062c, 0xfc98_0064a_00654_0062d,
  0xfc99_0064a_00654_0062e, 0xfc9a_0064a_00654_00645, 0xfc9b_0064a_00654_00647, 0xfc9c_00628_0062c,
  0xfc9d_00628_0062d, 0xfc9e_00628_0062e, 0xfc9f_00628_00645, 0xfca0_00628_00647,
  0xfca1_0062a_0062c, 0xfca2_0062a_0062d, 0xfca3_0062a_0062e, 0xfca4_0062a_00645,
  0xfca5_0062a_00647, 0xfca6_0062b_00645, 0xfca7_0062c_0062d, 0xfca8_0062c_00645,
  0xfca9_0062d_0062c, 0xfcaa_0062d_00645, 0xfcab_0062e_0062c, 0xfcac_0062e_00645,
  0xfcad_00633_0062c, 0xfcae_00633_0062d, 0xfcaf_00633_0062e, 0xfcb0_00633_00645,
  0xfcb1_00635_0062d, 0xfcb2_00635_0062e, 0xfcb3_00635_00645, 0xfcb4_00636_0062c,
  0xfcb5_00636_0062d, 0xfcb6_00636_0062e, 0xfcb7_00636_00645, 0xfcb8_00637_0062d,
  0xfcb9_00638_00645, 0xfcba_00639_0062c, 0xfcbb_00639_00645, 0xfcbc_0063a_0062c,
  0xfcbd_0063a_00645, 0xfcbe_00641_0062c, 0xfcbf_00641_0062d, 0xfcc0_00641_0062e,
  0xfcc1_00641_00645, 0xfcc2_00642_0062d, 0xfcc3_00642_00645, 0xfcc4_00643_0062c,
  0xfcc5_00643_0062d, 0xfcc6_00643_0062e, 0xfcc7_00643_00644, 0xfcc8_00643_00645,
  0xfcc9_00644_0062c, 0xfcca_00644_0062d, 0xfccb_00644_0062e, 0xfccc_00644_00645,
  0xfccd_00644_00647, 0xfcce_00645_0062c, 0xfccf_00645_0062d, 0xfcd0_00645_0062e,
  0xfcd1_00645_00645, 0xfcd2_00646_0062c, 0xfcd3_00646_0062d, 0xfcd4_00646_0062e,
  0xfcd5_00646_00645, 0xfcd6_00646_00647, 0xfcd7_00647_0062c, 0xfcd8_00647_00645,
  0xfcd9_00647_00670, 0xfcda_0064a_0062c, 0xfcdb_0064a_0062d, 0xfcdc_0064a_0062e,
  0xfcdd_0064a_00645, 0xfcde_0064a_00647, 0xfcdf_0064a_00654_00645, 0xfce0_0064a_00654_00647,
  0xfce1_00628_00645, 0xfce2_00628_00647, 0xfce3_0062a_00645, 0xfce4_0062a_00647,
  0xfce5_0062b_00645, 0xfce6_0062b_00647, 0xfce7_00633_00645, 0xfce8_00633_00647,
  0xfce9_00634_00645, 0xfcea_00634_00647, 0xfceb_00643_00644, 0xfcec_00643_00645,
  0xfced_00644_00645, 0xfcee_00646_00645, 0xfcef_00646_00647, 0xfcf0_0064a_00645,
  0xfcf1_0064a_00647, 0xfcf2_00640_0064e_00651, 0xfcf3_00640_0064f_00651, 0xfcf4_00640_00650_00651,
  0xfcf5_00637_00649, 0xfcf6_00637_0064a, 0xfcf7_00639_00649, 0xfcf8_00639_0064a,
  0xfcf9_0063a_00649, 0xfcfa_0063a_0064a, 0xfcfb_00633_00649, 0xfcfc_00633_0064a,
  0xfcfd_00634_00649, 0xfcfe_00634_0064a, 0xfcff_0062d_00649, 0xfd00_0062d_0064a,
  0xfd01_0062c_00649, 0xfd02_0062c_0064a, 0xfd03_0062e_00649, 0xfd04_0062e_0064a,
  0xfd05_00635_00649, 0xfd06_00635_0064a, 0xfd07_00636_00649, 0xfd08_00636_0064a,
  0xfd09_00634_0062c, 0xfd0a_00634_0062d, 0xfd0b_00634_0062e, 0xfd0c_00634_00645,
  0xfd0d_00634_00631, 0xfd0e_00633_00631, 0xfd0f_00635_00631, 0xfd10_00636_00631,
  0xfd11_00637_00649, 0xfd12_00637_0064a, 0xfd13_00639_00649, 0xfd14_00639_0064a,
  0xfd15_0063a_00649, 0xfd16_0063a_0064a, 0xfd17_00633_00649, 0xfd18_00633_0064a,
  0xfd19_00634_00649, 0xfd1a_00634_0064a, 0xfd1b_0062d_00649, 0xfd1c_0062d_0064a,
  0xfd1d_0062c_00649, 0xfd1e_0062c_0064a, 0xfd1f_0062e_00649, 0xfd20_0062e_0064a,
  0xfd21_00635_00649, 0xfd22_00635_0064a, 0xfd23_00636_00649, 0xfd24_00636_0064a,
  0xfd25_00634_0062c, 0xfd26_00634_0062d, 0xfd27_00634_0062e, 0xfd28_00634_00645,
  0xfd29_00634_00631, 0xfd2a_00633_00631, 0xfd2b_00635_00631, 0xfd2c_00636_00631,
  0xfd2d_00634_0062c, 0xfd2e_00634_0062d, 0xfd2f_00634_0062e, 0xfd30_00634_00645,
  0xfd31_00633_00647, 0xfd32_00634_00647, 0xfd33_00637_00645, 0xfd34_00633_0062c,
  0xfd35_00633_0062d, 0xfd36_00633_0062e, 0xfd37_00634_0062c, 0xfd38_00634_0062d,
  0xfd39_00634_0062e, 0xfd3a_00637_00645, 0xfd3b_00638_00645, 0xfd3c_00627_0064b,
  0xfd3d_00627_0064b, 0xfd50_0062a_0062c_00645, 0xfd51_0062a_0062d_0062c, 0xfd52_0062a_0062d_0062c,
  0xfd53_0062a_0062d_00645, 0xfd54_0062a_0062e_00645, 0xfd55_0062a_00645_0062c,
  0xfd56_0062a_00645_0062d, 0xfd57_0062a_00645_0062e, 0xfd58_0062c_00645_0062d,
  0xfd59_0062c_00645_0062d, 0xfd5a_0062d_00645_0064a, 0xfd5b_0062d_00645_00649,
  0xfd5c_00633_0062d_0062c, 0xfd5d_00633_0062c_0062d, 0xfd5e_00633_0062c_00649,
  0xfd5f_00633_00645_0062d, 0xfd60_00633_00645_0062d, 0xfd61_00633_00645_0062c,
  0xfd62_00633_00645_00645, 0xfd63_00633_00645_00645, 0xfd64_00635_0062d_0062d,
  0xfd65_00635_0062d_0062d, 0xfd66_00635_00645_00645, 0xfd67_00634_0062d_00645,
  0xfd68_00634_0062d_00645, 0xfd69_00634_0062c_0064a, 0xfd6a_00634_00645_0062e,
  0xfd6b_00634_00645_0062e, 0xfd6c_00634_00645_00645, 0xfd6d_00634_00645_00645,
  0xfd6e_00636_0062d_00649, 0xfd6f_00636_0062e_00645, 0xfd70_00636_0062e_00645,
  0xfd71_00637_00645_0062d, 0xfd72_00637_00645_0062d, 0xfd73_00637_00645_00645,
  0xfd74_00637_00645_0064a, 0xfd75_00639_0062c_00645, 0xfd76_00639_00645_00645,
  0xfd77_00639_00645_00645, 0xfd78_00639_00645_00649, 0xfd79_0063a_00645_00645,
  0xfd7a_0063a_00645_0064a, 0xfd7b_0063a_00645_00649, 0xfd7c_00641_0062e_00645,
  0xfd7d_00641_0062e_00645, 0xfd7e_00642_00645_0062d, 0xfd7f_00642_00645_00645,
  0xfd80_00644_0062d_00645, 0xfd81_00644_0062d_0064a, 0xfd82_00644_0062d_00649,
  0xfd83_00644_0062c_0062c, 0xfd84_00644_0062c_0062c, 0xfd85_00644_0062e_00645,
  0xfd86_00644_0062e_00645, 0xfd87_00644_00645_0062d, 0xfd88_00644_00645_0062d,
  0xfd89_00645_0062d_0062c, 0xfd8a_00645_0062d_00645, 0xfd8b_00645_0062d_0064a,
  0xfd8c_00645_0062c_0062d, 0xfd8d_00645_0062c_00645, 0xfd8e_00645_0062e_0062c,
  0xfd8f_00645_0062e_00645, 0xfd92_00645_0062c_0062e, 0xfd93_00647_00645_0062c,
  0xfd94_00647_00645_00645, 0xfd95_00646_0062d_00645, 0xfd96_00646_0062d_00649,
  0xfd97_00646_0062c_00645, 0xfd98_00646_0062c_00645, 0xfd99_00646_0062c_00649,
  0xfd9a_00646_00645_0064a, 0xfd9b_00646_00645_00649, 0xfd9c_0064a_00645_00645,
  0xfd9d_0064a_00645_00645, 0xfd9e_00628_0062e_0064a, 0xfd9f_0062a_0062c_0064a,
  0xfda0_0062a_0062c_00649, 0xfda1_0062a_0062e_0064a, 0xfda2_0062a_0062e_00649,
  0xfda3_0062a_00645_0064a, 0xfda4_0062a_00645_00649, 0xfda5_0062c_00645_0064a,
  0xfda6_0062c_0062d_00649, 0xfda7_0062c_00645_00649, 0xfda8_00633_0062e_00649,
  0xfda9_00635_0062d_0064a, 0xfdaa_00634_0062d_0064a, 0xfdab_00636_0062d_0064a,
  0xfdac_00644_0062c_0064a, 0xfdad_00644_00645_0064a, 0xfdae_0064a_0062d_0064a,
  0xfdaf_0064a_0062c_0064a, 0xfdb0_0064a_00645_0064a, 0xfdb1_00645_00645_0064a,
  0xfdb2_00642_00645_0064a, 0xfdb3_00646_0062d_0064a, 0xfdb4_00642_00645_0062d,
  0xfdb5_00644_0062d_00645, 0xfdb6_00639_00645_0064a, 0xfdb7_00643_00645_0064a,
  0xfdb8_00646_0062c_0062d, 0xfdb9_00645_0062e_0064a, 0xfdba_00644_0062c_00645,
  0xfdbb_00643_00645_00645, 0xfdbc_00644_0062c_00645, 0xfdbd_00646_0062c_0062d,
  0xfdbe_0062c_0062d_0064a, 0xfdbf_0062d_0062c_0064a, 0xfdc0_00645_0062c_0064a,
  0xfdc1_00641_00645_0064a, 0xfdc2_00628_0062d_0064a, 0xfdc3_00643_00645_00645,
  0xfdc4_00639_0062c_00645, 0xfdc5_00635_00645_00645, 0xfdc6_00633_0062e_0064a,
  0xfdc7_00646_0062c_0064a, 0xfdf0_00635_00644_006d2, 0xfdf1_00642_00644_006d2,
  0xfdf2_00627_00644_00644_00647, 0xfdf3_00627_00643_00628_00631, 0xfdf4_00645_0062d_00645_0062f,
  0xfdf5_00635_00644_00639_00645, 0xfdf6_00631_00633_00648_00644, 0xfdf7_00639_00644_0064a_00647,
  0xfdf8_00648_00633_00644_00645, 0xfdf9_00635_00644_00649, 0xfe71_00640_0064b, 0xfe77_00640_0064e,
  0xfe79_00640_0064f, 0xfe7b_00640_00650, 0xfe7d_00640_00651, 0xfe7f_00640_00652,
  0xfe81_00627_00653, 0xfe82_00627_00653, 0xfe83_00627_00654, 0xfe84_00627_00654,
  0xfe85_00648_00654, 0xfe86_00648_00654, 0xfe87_00627_00655, 0xfe88_00627_00655,
  0xfe89_0064a_00654, 0xfe8a_0064a_00654, 0xfe8b_0064a_00654, 0xfe8c_0064a_00654,
  0xfef5_00644_00627_00653, 0xfef6_00644_00627_00653, 0xfef7_00644_00627_00654,
  0xfef8_00644_00627_00654, 0xfef9_00644_00627_00655, 0xfefa_00644_00627_00655, 0xfefb_00644_00627,
  0xfefc_00644_00627, 0x1109a_11099_110ba, 0x1109c_1109b_110ba, 0x110ab_110a5_110ba,
  0x1112e_11131_11127, 0x1112f_11132_11127, 0x1134b_11347_1133e, 0x1134c_11347_11357,
  0x114bb_114b9_114ba, 0x114bc_114b9_114b0, 0x114be_114b9_114bd, 0x115ba_115b8_115af,
  0x115bb_115b9_115af, 0x11938_11935_11930]

/-- Marks: the first and the last of a run, and their class. -/
def markClasses : List (List Nat) := rowsOf [
  0x300_00314_000e6, 0x315_00315_000e8, 0x316_00319_000dc, 0x31a_0031a_000e8, 0x31b_0031b_000d8,
  0x31c_00320_000dc, 0x321_00322_000ca, 0x323_00326_000dc, 0x327_00328_000ca, 0x329_00333_000dc,
  0x334_00338_00001, 0x339_0033c_000dc, 0x33d_00344_000e6, 0x345_00345_000f0, 0x346_00346_000e6,
  0x347_00349_000dc, 0x34a_0034c_000e6, 0x34d_0034e_000dc, 0x350_00352_000e6, 0x353_00356_000dc,
  0x357_00357_000e6, 0x358_00358_000e8, 0x359_0035a_000dc, 0x35b_0035b_000e6, 0x35c_0035c_000e9,
  0x35d_0035e_000ea, 0x35f_0035f_000e9, 0x360_00361_000ea, 0x362_00362_000e9, 0x363_0036f_000e6,
  0x483_00487_000e6, 0x591_00591_000dc, 0x592_00595_000e6, 0x596_00596_000dc, 0x597_00599_000e6,
  0x59a_0059a_000de, 0x59b_0059b_000dc, 0x59c_005a1_000e6, 0x5a2_005a7_000dc, 0x5a8_005a9_000e6,
  0x5aa_005aa_000dc, 0x5ab_005ac_000e6, 0x5ad_005ad_000de, 0x5ae_005ae_000e4, 0x5af_005af_000e6,
  0x5b0_005b0_0000a, 0x5b1_005b1_0000b, 0x5b2_005b2_0000c, 0x5b3_005b3_0000d, 0x5b4_005b4_0000e,
  0x5b5_005b5_0000f, 0x5b6_005b6_00010, 0x5b7_005b7_00011, 0x5b8_005b8_00012, 0x5b9_005ba_00013,
  0x5bb_005bb_00014, 0x5bc_005bc_00015, 0x5bd_005bd_00016, 0x5bf_005bf_00017, 0x5c1_005c1_00018,
  0x5c2_005c2_00019, 0x5c4_005c4_000e6, 0x5c5_005c5_000dc, 0x5c7_005c7_00012, 0x610_00617_000e6,
  0x618_00618_0001e, 0x619_00619_0001f, 0x61a_0061a_00020, 0x64b_0064b_0001b, 0x64c_0064c_0001c,
  0x64d_0064d_0001d, 0x64e_0064e_0001e, 0x64f_0064f_0001f, 0x650_00650_00020, 0x651_00651_00021,
  0x652_00652_00022, 0x653_00654_000e6, 0x655_00656_000dc, 0x657_0065b_000e6, 0x65c_0065c_000dc,
  0x65d_0065e_000e6, 0x65f_0065f_000dc, 0x670_00670_00023, 0x6d6_006dc_000e6, 0x6df_006e2_000e6,
  0x6e3_006e3_000dc, 0x6e4_006e4_000e6, 0x6e7_006e8_000e6, 0x6ea_006ea_000dc, 0x6eb_006ec_000e6,
  0x6ed_006ed_000dc, 0x711_00711_00024, 0x730_00730_000e6, 0x731_00731_000dc, 0x732_00733_000e6,
  0x734_00734_000dc, 0x735_00736_000e6, 0x737_00739_000dc, 0x73a_0073a_000e6, 0x73b_0073c_000dc,
  0x73d_0073d_000e6, 0x73e_0073e_000dc, 0x73f_00741_000e6, 0x742_00742_000dc, 0x743_00743_000e6,
  0x744_00744_000dc, 0x745_00745_000e6, 0x746_00746_000dc, 0x747_00747_000e6, 0x748_00748_000dc,
  0x749_0074a_000e6, 0x7eb_007f1_000e6, 0x7f2_007f2_000dc, 0x7f3_007f3_000e6, 0x7fd_007fd_000dc,
  0x816_00819_000e6, 0x81b_00823_000e6, 0x825_00827_000e6, 0x829_0082d_000e6, 0x859_0085b_000dc,
  0x898_00898_000e6, 0x899_0089b_000dc, 0x89c_0089f_000e6, 0x8ca_008ce_000e6, 0x8cf_008d3_000dc,
  0x8d4_008e1_000e6, 0x8e3_008e3_000dc, 0x8e4_008e5_000e6, 0x8e6_008e6_000dc, 0x8e7_008e8_000e6,
  0x8e9_008e9_000dc, 0x8ea_008ec_000e6, 0x8ed_008ef_000dc, 0x8f0_008f0_0001b, 0x8f1_008f1_0001c,
  0x8f2_008f2_0001d, 0x8f3_008f5_000e6, 0x8f6_008f6_000dc, 0x8f7_008f8_000e6, 0x8f9_008fa_000dc,
  0x8fb_008ff_000e6, 0x93c_0093c_00007, 0x94d_0094d_00009, 0x951_00951_000e6, 0x952_00952_000dc,
  0x953_00954_000e6, 0x9bc_009bc_00007, 0x9cd_009cd_00009, 0x9fe_009fe_000e6, 0xa3c_00a3c_00007,
  0xa4d_00a4d_00009, 0xabc_00abc_00007, 0xacd_00acd_00009, 0xb3c_00b3c_00007, 0xb4d_00b4d_00009,
  0xbcd_00bcd_00009, 0xc3c_00c3c_00007, 0xc4d_00c4d_00009, 0xc55_00c55_00054, 0xc56_00c56_0005b,
  0xcbc_00cbc_00007, 0xccd_00ccd_00009, 0xd3b_00d3c_00009, 0xd4d_00d4d_00009, 0xdca_00dca_00009,
  0xe38_00e39_00067, 0xe3a_00e3a_00009, 0xe48_00e4b_0006b, 0xeb8_00eb9_00076, 0xeba_00eba_00009,
  0xec8_00ecb_0007a, 0xf18_00f19_000dc, 0xf35_00f35_000dc, 0xf37_00f37_000dc, 0xf39_00f39_000d8,
  0xf71_00f71_00081, 0xf72_00f72_00082, 0xf74_00f74_00084, 0xf7a_00f7d_00082, 0xf80_00f80_00082,
  0xf82_00f83_000e6, 0xf84_00f84_00009, 0xf86_00f87_000e6, 0xfc6_00fc6_000dc, 0x1037_01037_00007,
  0x1039_0103a_00009, 0x108d_0108d_000dc, 0x135d_0135f_000e6, 0x1714_01715_00009,
  0x1734_01734_00009, 0x17d2_017d2_00009, 0x17dd_017dd_000e6, 0x18a9_018a9_000e4,
  0x1939_01939_000de, 0x193a_0193a_000e6, 0x193b_0193b_000dc, 0x1a17_01a17_000e6,
  0x1a18_01a18_000dc, 0x1a60_01a60_00009, 0x1a75_01a7c_000e6, 0x1a7f_01a7f_000dc,
  0x1ab0_01ab4_000e6, 0x1ab5_01aba_000dc, 0x1abb_01abc_000e6, 0x1abd_01abd_000dc,
  0x1abf_01ac0_000dc, 0x1ac1_01ac2_000e6, 0x1ac3_01ac4_000dc, 0x1ac5_01ac9_000e6,
  0x1aca_01aca_000dc, 0x1acb_01ace_000e6, 0x1b34_01b34_00007, 0x1b44_01b44_00009,
  0x1b6b_01b6b_000e6, 0x1b6c_01b6c_000dc, 0x1b6d_01b73_000e6, 0x1baa_01bab_00009,
  0x1be6_01be6_00007, 0x1bf2_01bf3_00009, 0x1c37_01c37_00007, 0x1cd0_01cd2_000e6,
  0x1cd4_01cd4_00001, 0x1cd5_01cd9_000dc, 0x1cda_01cdb_000e6, 0x1cdc_01cdf_000dc,
  0x1ce0_01ce0_000e6, 0x1ce2_01ce8_00001, 0x1ced_01ced_000dc, 0x1cf4_01cf4_000e6,
  0x1cf8_01cf9_000e6, 0x1dc0_01dc1_000e6, 0x1dc2_01dc2_000dc, 0x1dc3_01dc9_000e6,
  0x1dca_01dca_000dc, 0x1dcb_01dcc_000e6, 0x1dcd_01dcd_000ea, 0x1dce_01dce_000d6,
  0x1dcf_01dcf_000dc, 0x1dd0_01dd0_000ca, 0x1dd1_01df5_000e6, 0x1df6_01df6_000e8,
  0x1df7_01df8_000e4, 0x1df9_01df9_000dc, 0x1dfa_01dfa_000da, 0x1dfb_01dfb_000e6,
  0x1dfc_01dfc_000e9, 0x1dfd_01dfd_000dc, 0x1dfe_01dfe_000e6, 0x1dff_01dff_000dc,
  0x20d0_020d1_000e6, 0x20d2_020d3_00001, 0x20d4_020d7_000e6, 0x20d8_020da_00001,
  0x20db_020dc_000e6, 0x20e1_020e1_000e6, 0x20e5_020e6_00001, 0x20e7_020e7_000e6,
  0x20e8_020e8_000dc, 0x20e9_020e9_000e6, 0x20ea_020eb_00001, 0x20ec_020ef_000dc,
  0x20f0_020f0_000e6, 0x2cef_02cf1_000e6, 0x2d7f_02d7f_00009, 0x2de0_02dff_000e6,
  0x302a_0302a_000da, 0x302b_0302b_000e4, 0x302c_0302c_000e8, 0x302d_0302d_000de,
  0x302e_0302f_000e0, 0x3099_0309a_00008, 0xa66f_0a66f_000e6, 0xa674_0a67d_000e6,
  0xa69e_0a69f_000e6, 0xa6f0_0a6f1_000e6, 0xa806_0a806_00009, 0xa82c_0a82c_00009,
  0xa8c4_0a8c4_00009, 0xa8e0_0a8f1_000e6, 0xa92b_0a92d_000dc, 0xa953_0a953_00009,
  0xa9b3_0a9b3_00007, 0xa9c0_0a9c0_00009, 0xaab0_0aab0_000e6, 0xaab2_0aab3_000e6,
  0xaab4_0aab4_000dc, 0xaab7_0aab8_000e6, 0xaabe_0aabf_000e6, 0xaac1_0aac1_000e6,
  0xaaf6_0aaf6_00009, 0xabed_0abed_00009, 0xfb1e_0fb1e_0001a, 0xfe20_0fe26_000e6,
  0xfe27_0fe2d_000dc, 0xfe2e_0fe2f_000e6, 0x101fd_101fd_000dc, 0x102e0_102e0_000dc,
  0x10376_1037a_000e6, 0x10a0d_10a0d_000dc, 0x10a0f_10a0f_000e6, 0x10a38_10a38_000e6,
  0x10a39_10a39_00001, 0x10a3a_10a3a_000dc, 0x10a3f_10a3f_00009, 0x10ae5_10ae5_000e6,
  0x10ae6_10ae6_000dc, 0x10d24_10d27_000e6, 0x10eab_10eac_000e6, 0x10f46_10f47_000dc,
  0x10f48_10f4a_000e6, 0x10f4b_10f4b_000dc, 0x10f4c_10f4c_000e6, 0x10f4d_10f50_000dc,
  0x10f82_10f82_000e6, 0x10f83_10f83_000dc, 0x10f84_10f84_000e6, 0x10f85_10f85_000dc,
  0x11046_11046_00009, 0x11070_11070_00009, 0x1107f_1107f_00009, 0x110b9_110b9_00009,
  0x110ba_110ba_00007, 0x11100_11102_000e6, 0x11133_11134_00009, 0x11173_11173_00007,
  0x111c0_111c0_00009, 0x111ca_111ca_00007, 0x11235_11235_00009, 0x11236_11236_00007,
  0x112e9_112e9_00007, 0x112ea_112ea_00009, 0x1133b_1133c_00007, 0x1134d_1134d_00009,
  0x11366_1136c_000e6, 0x11370_11374_000e6, 0x11442_11442_00009, 0x11446_11446_00007,
  0x1145e_1145e_000e6, 0x114c2_114c2_00009, 0x114c3_114c3_00007, 0x115bf_115bf_00009,
  0x115c0_115c0_00007, 0x1163f_1163f_00009, 0x116b6_116b6_00009, 0x116b7_116b7_00007,
  0x1172b_1172b_00009, 0x11839_11839_00009, 0x1183a_1183a_00007, 0x1193d_1193e_00009,
  0x11943_11943_00007, 0x119e0_119e0_00009, 0x11a34_11a34_00009, 0x11a47_11a47_00009,
  0x11a99_11a99_00009, 0x11c3f_11c3f_00009, 0x11d42_11d42_00007, 0x11d44_11d45_00009,
  0x11d97_11d97_00009, 0x16af0_16af4_00001, 0x16b30_16b36_000e6, 0x16ff0_16ff1_00006,
  0x1bc9e_1bc9e_00001, 0x1d165_1d166_000d8, 0x1d167_1d169_00001, 0x1d16d_1d16d_000e2,
  0x1d16e_1d172_000d8, 0x1d17b_1d182_000dc, 0x1d185_1d189_000e6, 0x1d18a_1d18b_000dc,
  0x1d1aa_1d1ad_000e6, 0x1d242_1d244_000e6, 0x1e000_1e006_000e6, 0x1e008_1e018_000e6,
  0x1e01b_1e021_000e6, 0x1e023_1e024_000e6, 0x1e026_1e02a_000e6, 0x1e130_1e136_000e6,
  0x1e2ae_1e2ae_000e6, 0x1e2ec_1e2ef_000e6, 0x1e8d0_1e8d6_000dc, 0x1e944_1e949_000e6,
  0x1e94a_1e94a_00007]

/-- Pairs that one character stands for, and that character. -/
def compositions : List (List Nat) := rowsOf [
  0x41_00300_000c0, 0x41_00301_000c1, 0x41_00302_000c2, 0x41_00303_000c3, 0x41_00304_00100,
  0x41_00306_00102, 0x41_00307_00226, 0x41_00308_000c4, 0x41_00309_01ea2, 0x41_0030a_000c5,
  0x41_0030c_001cd, 0x41_0030f_00200, 0x41_00311_00202, 0x41_00323_01ea0, 0x41_00325_01e00,
  0x41_00328_00104, 0x42_00307_01e02, 0x42_00323_01e04, 0x42_00331_01e06, 0x43_00301_00106,
  0x43_00302_00108, 0x43_00307_0010a, 0x43_0030c_0010c, 0x43_00327_000c7, 0x44_00307_01e0a,
  0x44_0030c_0010e, 0x44_00323_01e0c, 0x44_00327_01e10, 0x44_0032d_01e12, 0x44_00331_01e0e,
  0x45_00300_000c8, 0x45_00301_000c9, 0x45_00302_000ca, 0x45_00303_01ebc, 0x45_00304_00112,
  0x45_00306_00114, 0x45_00307_00116, 0x45_00308_000cb, 0x45_00309_01eba, 0x45_0030c_0011a,
  0x45_0030f_00204, 0x45_00311_00206, 0x45_00323_01eb8, 0x45_00327_00228, 0x45_00328_00118,
  0x45_0032d_01e18, 0x45_00330_01e1a, 0x46_00307_01e1e, 0x47_00301_001f4, 0x47_00302_0011c,
  0x47_00304_01e20, 0x47_00306_0011e, 0x47_00307_00120, 0x47_0030c_001e6, 0x47_00327_00122,
  0x48_00302_00124, 0x48_00307_01e22, 0x48_00308_01e26, 0x48_0030c_0021e, 0x48_00323_01e24,
  0x48_00327_01e28, 0x48_0032e_01e2a, 0x49_00300_000cc, 0x49_00301_000cd, 0x49_00302_000ce,
  0x49_00303_00128, 0x49_00304_0012a, 0x49_00306_0012c, 0x49_00307_00130, 0x49_00308_000cf,
  0x49_00309_01ec8, 0x49_0030c_001cf, 0x49_0030f_00208, 0x49_00311_0020a, 0x49_00323_01eca,
  0x49_00328_0012e, 0x49_00330_01e2c, 0x4a_00302_00134, 0x4b_00301_01e30, 0x4b_0030c_001e8,
  0x4b_00323_01e32, 0x4b_00327_00136, 0x4b_00331_01e34, 0x4c_00301_00139, 0x4c_0030c_0013d,
  0x4c_00323_01e36, 0x4c_00327_0013b, 0x4c_0032d_01e3c, 0x4c_00331_01e3a, 0x4d_00301_01e3e,
  0x4d_00307_01e40, 0x4d_00323_01e42, 0x4e_00300_001f8, 0x4e_00301_00143, 0x4e_00303_000d1,
  0x4e_00307_01e44, 0x4e_0030c_00147, 0x4e_00323_01e46, 0x4e_00327_00145, 0x4e_0032d_01e4a,
  0x4e_00331_01e48, 0x4f_00300_000d2, 0x4f_00301_000d3, 0x4f_00302_000d4, 0x4f_00303_000d5,
  0x4f_00304_0014c, 0x4f_00306_0014e, 0x4f_00307_0022e, 0x4f_00308_000d6, 0x4f_00309_01ece,
  0x4f_0030b_00150, 0x4f_0030c_001d1, 0x4f_0030f_0020c, 0x4f_00311_0020e, 0x4f_0031b_001a0,
  0x4f_00323_01ecc, 0x4f_00328_001ea, 0x50_00301_01e54, 0x50_00307_01e56, 0x52_00301_00154,
  0x52_00307_01e58, 0x52_0030c_00158, 0x52_0030f_00210, 0x52_00311_00212, 0x52_00323_01e5a,
  0x52_00327_00156, 0x52_00331_01e5e, 0x53_00301_0015a, 0x53_00302_0015c, 0x53_00307_01e60,
  0x53_0030c_00160, 0x53_00323_01e62, 0x53_00326_00218, 0x53_00327_0015e, 0x54_00307_01e6a,
  0x54_0030c_00164, 0x54_00323_01e6c, 0x54_00326_0021a, 0x54_00327_00162, 0x54_0032d_01e70,
  0x54_00331_01e6e, 0x55_00300_000d9, 0x55_00301_000da, 0x55_00302_000db, 0x55_00303_00168,
  0x55_00304_0016a, 0x55_00306_0016c, 0x55_00308_000dc, 0x55_00309_01ee6, 0x55_0030a_0016e,
  0x55_0030b_00170, 0x55_0030c_001d3, 0x55_0030f_00214, 0x55_00311_00216, 0x55_0031b_001af,
  0x55_00323_01ee4, 0x55_00324_01e72, 0x55_00328_00172, 0x55_0032d_01e76, 0x55_00330_01e74,
  0x56_00303_01e7c, 0x56_00323_01e7e, 0x57_00300_01e80, 0x57_00301_01e82, 0x57_00302_00174,
  0x57_00307_01e86, 0x57_00308_01e84, 0x57_00323_01e88, 0x58_00307_01e8a, 0x58_00308_01e8c,
  0x59_00300_01ef2, 0x59_00301_000dd, 0x59_00302_00176, 0x59_00303_01ef8, 0x59_00304_00232,
  0x59_00307_01e8e, 0x59_00308_00178, 0x59_00309_01ef6, 0x59_00323_01ef4, 0x5a_00301_00179,
  0x5a_00302_01e90, 0x5a_00307_0017b, 0x5a_0030c_0017d, 0x5a_00323_01e92, 0x5a_00331_01e94,
  0x61_00300_000e0, 0x61_00301_000e1, 0x61_00302_000e2, 0x61_00303_000e3, 0x61_00304_00101,
  0x61_00306_00103, 0x61_00307_00227, 0x61_00308_000e4, 0x61_00309_01ea3, 0x61_0030a_000e5,
  0x61_0030c_001ce, 0x61_0030f_00201, 0x61_00311_00203, 0x61_00323_01ea1, 0x61_00325_01e01,
  0x61_00328_00105, 0x62_00307_01e03, 0x62_00323_01e05, 0x62_00331_01e07, 0x63_00301_00107,
  0x63_00302_00109, 0x63_00307_0010b, 0x63_0030c_0010d, 0x63_00327_000e7, 0x64_00307_01e0b,
  0x64_0030c_0010f, 0x64_00323_01e0d, 0x64_00327_01e11, 0x64_0032d_01e13, 0x64_00331_01e0f,
  0x65_00300_000e8, 0x65_00301_000e9, 0x65_00302_000ea, 0x65_00303_01ebd, 0x65_00304_00113,
  0x65_00306_00115, 0x65_00307_00117, 0x65_00308_000eb, 0x65_00309_01ebb, 0x65_0030c_0011b,
  0x65_0030f_00205, 0x65_00311_00207, 0x65_00323_01eb9, 0x65_00327_00229, 0x65_00328_00119,
  0x65_0032d_01e19, 0x65_00330_01e1b, 0x66_00307_01e1f, 0x67_00301_001f5, 0x67_00302_0011d,
  0x67_00304_01e21, 0x67_00306_0011f, 0x67_00307_00121, 0x67_0030c_001e7, 0x67_00327_00123,
  0x68_00302_00125, 0x68_00307_01e23, 0x68_00308_01e27, 0x68_0030c_0021f, 0x68_00323_01e25,
  0x68_00327_01e29, 0x68_0032e_01e2b, 0x68_00331_01e96, 0x69_00300_000ec, 0x69_00301_000ed,
  0x69_00302_000ee, 0x69_00303_00129, 0x69_00304_0012b, 0x69_00306_0012d, 0x69_00308_000ef,
  0x69_00309_01ec9, 0x69_0030c_001d0, 0x69_0030f_00209, 0x69_00311_0020b, 0x69_00323_01ecb,
  0x69_00328_0012f, 0x69_00330_01e2d, 0x6a_00302_00135, 0x6a_0030c_001f0, 0x6b_00301_01e31,
  0x6b_0030c_001e9, 0x6b_00323_01e33, 0x6b_00327_00137, 0x6b_00331_01e35, 0x6c_00301_0013a,
  0x6c_0030c_0013e, 0x6c_00323_01e37, 0x6c_00327_0013c, 0x6c_0032d_01e3d, 0x6c_00331_01e3b,
  0x6d_00301_01e3f, 0x6d_00307_01e41, 0x6d_00323_01e43, 0x6e_00300_001f9, 0x6e_00301_00144,
  0x6e_00303_000f1, 0x6e_00307_01e45, 0x6e_0030c_00148, 0x6e_00323_01e47, 0x6e_00327_00146,
  0x6e_0032d_01e4b, 0x6e_00331_01e49, 0x6f_00300_000f2, 0x6f_00301_000f3, 0x6f_00302_000f4,
  0x6f_00303_000f5, 0x6f_00304_0014d, 0x6f_00306_0014f, 0x6f_00307_0022f, 0x6f_00308_000f6,
  0x6f_00309_01ecf, 0x6f_0030b_00151, 0x6f_0030c_001d2, 0x6f_0030f_0020d, 0x6f_00311_0020f,
  0x6f_0031b_001a1, 0x6f_00323_01ecd, 0x6f_00328_001eb, 0x70_00301_01e55, 0x70_00307_01e57,
  0x72_00301_00155, 0x72_00307_01e59, 0x72_0030c_00159, 0x72_0030f_00211, 0x72_00311_00213,
  0x72_00323_01e5b, 0x72_00327_00157, 0x72_00331_01e5f, 0x73_00301_0015b, 0x73_00302_0015d,
  0x73_00307_01e61, 0x73_0030c_00161, 0x73_00323_01e63, 0x73_00326_00219, 0x73_00327_0015f,
  0x74_00307_01e6b, 0x74_00308_01e97, 0x74_0030c_00165, 0x74_00323_01e6d, 0x74_00326_0021b,
  0x74_00327_00163, 0x74_0032d_01e71, 0x74_00331_01e6f, 0x75_00300_000f9, 0x75_00301_000fa,
  0x75_00302_000fb, 0x75_00303_00169, 0x75_00304_0016b, 0x75_00306_0016d, 0x75_00308_000fc,
  0x75_00309_01ee7, 0x75_0030a_0016f, 0x75_0030b_00171, 0x75_0030c_001d4, 0x75_0030f_00215,
  0x75_00311_00217, 0x75_0031b_001b0, 0x75_00323_01ee5, 0x75_00324_01e73, 0x75_00328_00173,
  0x75_0032d_01e77, 0x75_00330_01e75, 0x76_00303_01e7d, 0x76_00323_01e7f, 0x77_00300_01e81,
  0x77_00301_01e83, 0x77_00302_00175, 0x77_00307_01e87, 0x77_00308_01e85, 0x77_0030a_01e98,
  0x77_00323_01e89, 0x78_00307_01e8b, 0x78_00308_01e8d, 0x79_00300_01ef3, 0x79_00301_000fd,
  0x79_00302_00177, 0x79_00303_01ef9, 0x79_00304_00233, 0x79_00307_01e8f, 0x79_00308_000ff,
  0x79_00309_01ef7, 0x79_0030a_01e99, 0x79_00323_01ef5, 0x7a_00301_0017a, 0x7a_00302_01e91,
  0x7a_00307_0017c, 0x7a_0030c_0017e, 0x7a_00323_01e93, 0x7a_00331_01e95, 0xc2_00300_01ea6,
  0xc2_00301_01ea4, 0xc2_00303_01eaa, 0xc2_00309_01ea8, 0xc4_00304_001de, 0xc5_00301_001fa,
  0xc6_00301_001fc, 0xc6_00304_001e2, 0xc7_00301_01e08, 0xca_00300_01ec0, 0xca_00301_01ebe,
  0xca_00303_01ec4, 0xca_00309_01ec2, 0xcf_00301_01e2e, 0xd4_00300_01ed2, 0xd4_00301_01ed0,
  0xd4_00303_01ed6, 0xd4_00309_01ed4, 0xd5_00301_01e4c, 0xd5_00304_0022c, 0xd5_00308_01e4e,
  0xd6_00304_0022a, 0xd8_00301_001fe, 0xdc_00300_001db, 0xdc_00301_001d7, 0xdc_00304_001d5,
  0xdc_0030c_001d9, 0xe2_00300_01ea7, 0xe2_00301_01ea5, 0xe2_00303_01eab, 0xe2_00309_01ea9,
  0xe4_00304_001df, 0xe5_00301_001fb, 0xe6_00301_001fd, 0xe6_00304_001e3, 0xe7_00301_01e09,
  0xea_00300_01ec1, 0xea_00301_01ebf, 0xea_00303_01ec5, 0xea_00309_01ec3, 0xef_00301_01e2f,
  0xf4_00300_01ed3, 0xf4_00301_01ed1, 0xf4_00303_01ed7, 0xf4_00309_01ed5, 0xf5_00301_01e4d,
  0xf5_00304_0022d, 0xf5_00308_01e4f, 0xf6_00304_0022b, 0xf8_00301_001ff, 0xfc_00300_001dc,
  0xfc_00301_001d8, 0xfc_00304_001d6, 0xfc_0030c_001da, 0x102_00300_01eb0, 0x102_00301_01eae,
  0x102_00303_01eb4, 0x102_00309_01eb2, 0x103_00300_01eb1, 0x103_00301_01eaf, 0x103_00303_01eb5,
  0x103_00309_01eb3, 0x112_00300_01e14, 0x112_00301_01e16, 0x113_00300_01e15, 0x113_00301_01e17,
  0x14c_00300_01e50, 0x14c_00301_01e52, 0x14d_00300_01e51, 0x14d_00301_01e53, 0x15a_00307_01e64,
  0x15b_00307_01e65, 0x160_00307_01e66, 0x161_00307_01e67, 0x168_00301_01e78, 0x169_00301_01e79,
  0x16a_00308_01e7a, 0x16b_00308_01e7b, 0x17f_00307_01e9b, 0x1a0_00300_01edc, 0x1a0_00301_01eda,
  0x1a0_00303_01ee0, 0x1a0_00309_01ede, 0x1a0_00323_01ee2, 0x1a1_00300_01edd, 0x1a1_00301_01edb,
  0x1a1_00303_01ee1, 0x1a1_00309_01edf, 0x1a1_00323_01ee3, 0x1af_00300_01eea, 0x1af_00301_01ee8,
  0x1af_00303_01eee, 0x1af_00309_01eec, 0x1af_00323_01ef0, 0x1b0_00300_01eeb, 0x1b0_00301_01ee9,
  0x1b0_00303_01eef, 0x1b0_00309_01eed, 0x1b0_00323_01ef1, 0x1b7_0030c_001ee, 0x1ea_00304_001ec,
  0x1eb_00304_001ed, 0x226_00304_001e0, 0x227_00304_001e1, 0x228_00306_01e1c, 0x229_00306_01e1d,
  0x22e_00304_00230, 0x22f_00304_00231, 0x292_0030c_001ef, 0x391_00300_01fba, 0x391_00301_00386,
  0x391_00304_01fb9, 0x391_00306_01fb8, 0x391_00313_01f08, 0x391_00314_01f09, 0x391_00345_01fbc,
  0x395_00300_01fc8, 0x395_00301_00388, 0x395_00313_01f18, 0x395_00314_01f19, 0x397_00300_01fca,
  0x397_00301_00389, 0x397_00313_01f28, 0x397_00314_01f29, 0x397_00345_01fcc, 0x399_00300_01fda,
  0x399_00301_0038a, 0x399_00304_01fd9, 0x399_00306_01fd8, 0x399_00308_003aa, 0x399_00313_01f38,
  0x399_00314_01f39, 0x39f_00300_01ff8, 0x39f_00301_0038c, 0x39f_00313_01f48, 0x39f_00314_01f49,
  0x3a1_00314_01fec, 0x3a5_00300_01fea, 0x3a5_00301_0038e, 0x3a5_00304_01fe9, 0x3a5_00306_01fe8,
  0x3a5_00308_003ab, 0x3a5_00314_01f59, 0x3a9_00300_01ffa, 0x3a9_00301_0038f, 0x3a9_00313_01f68,
  0x3a9_00314_01f69, 0x3a9_00345_01ffc, 0x3ac_00345_01fb4, 0x3ae_00345_01fc4, 0x3b1_00300_01f70,
  0x3b1_00301_003ac, 0x3b1_00304_01fb1, 0x3b1_00306_01fb0, 0x3b1_00313_01f00, 0x3b1_00314_01f01,
  0x3b1_00342_01fb6, 0x3b1_00345_01fb3, 0x3b5_00300_01f72, 0x3b5_00301_003ad, 0x3b5_00313_01f10,
  0x3b5_00314_01f11, 0x3b7_00300_01f74, 0x3b7_00301_003ae, 0x3b7_00313_01f20, 0x3b7_00314_01f21,
  0x3b7_00342_01fc6, 0x3b7_00345_01fc3, 0x3b9_00300_01f76, 0x3b9_00301_003af, 0x3b9_00304_01fd1,
  0x3b9_00306_01fd0, 0x3b9_00308_003ca, 0x3b9_00313_01f30, 0x3b9_00314_01f31, 0x3b9_00342_01fd6,
  0x3bf_00300_01f78, 0x3bf_00301_003cc, 0x3bf_00313_01f40, 0x3bf_00314_01f41, 0x3c1_00313_01fe4,
  0x3c1_00314_01fe5, 0x3c5_00300_01f7a, 0x3c5_00301_003cd, 0x3c5_00304_01fe1, 0x3c5_00306_01fe0,
  0x3c5_00308_003cb, 0x3c5_00313_01f50, 0x3c5_00314_01f51, 0x3c5_00342_01fe6, 0x3c9_00300_01f7c,
  0x3c9_00301_003ce, 0x3c9_00313_01f60, 0x3c9_00314_01f61, 0x3c9_00342_01ff6, 0x3c9_00345_01ff3,
  0x3ca_00300_01fd2, 0x3ca_00301_00390, 0x3ca_00342_01fd7, 0x3cb_00300_01fe2, 0x3cb_00301_003b0,
  0x3cb_00342_01fe7, 0x3ce_00345_01ff4, 0x3d2_00301_003d3, 0x3d2_00308_003d4, 0x406_00308_00407,
  0x410_00306_004d0, 0x410_00308_004d2, 0x413_00301_00403, 0x415_00300_00400, 0x415_00306_004d6,
  0x415_00308_00401, 0x416_00306_004c1, 0x416_00308_004dc, 0x417_00308_004de, 0x418_00300_0040d,
  0x418_00304_004e2, 0x418_00306_00419, 0x418_00308_004e4, 0x41a_00301_0040c, 0x41e_00308_004e6,
  0x423_00304_004ee, 0x423_00306_0040e, 0x423_00308_004f0, 0x423_0030b_004f2, 0x427_00308_004f4,
  0x42b_00308_004f8, 0x42d_00308_004ec, 0x430_00306_004d1, 0x430_00308_004d3, 0x433_00301_00453,
  0x435_00300_00450, 0x435_00306_004d7, 0x435_00308_00451, 0x436_00306_004c2, 0x436_00308_004dd,
  0x437_00308_004df, 0x438_00300_0045d, 0x438_00304_004e3, 0x438_00306_00439, 0x438_00308_004e5,
  0x43a_00301_0045c, 0x43e_00308_004e7, 0x443_00304_004ef, 0x443_00306_0045e, 0x443_00308_004f1,
  0x443_0030b_004f3, 0x447_00308_004f5, 0x44b_00308_004f9, 0x44d_00308_004ed, 0x456_00308_00457,
  0x474_0030f_00476, 0x475_0030f_00477, 0x4d8_00308_004da, 0x4d9_00308_004db, 0x4e8_00308_004ea,
  0x4e9_00308_004eb, 0x627_00653_00622, 0x627_00654_00623, 0x627_00655_00625, 0x648_00654_00624,
  0x64a_00654_00626, 0x6c1_00654_006c2, 0x6d2_00654_006d3, 0x6d5_00654_006c0, 0x928_0093c_00929,
  0x930_0093c_00931, 0x933_0093c_00934, 0x9c7_009be_009cb, 0x9c7_009d7_009cc, 0xb47_00b3e_00b4b,
  0xb47_00b56_00b48, 0xb47_00b57_00b4c, 0xb92_00bd7_00b94, 0xbc6_00bbe_00bca, 0xbc6_00bd7_00bcc,
  0xbc7_00bbe_00bcb, 0xc46_00c56_00c48, 0xcbf_00cd5_00cc0, 0xcc6_00cc2_00cca, 0xcc6_00cd5_00cc7,
  0xcc6_00cd6_00cc8, 0xcca_00cd5_00ccb, 0xd46_00d3e_00d4a, 0xd46_00d57_00d4c, 0xd47_00d3e_00d4b,
  0xdd9_00dca_00dda, 0xdd9_00dcf_00ddc, 0xdd9_00ddf_00dde, 0xddc_00dca_00ddd, 0x1025_0102e_01026,
  0x1b05_01b35_01b06, 0x1b07_01b35_01b08, 0x1b09_01b35_01b0a, 0x1b0b_01b35_01b0c,
  0x1b0d_01b35_01b0e, 0x1b11_01b35_01b12, 0x1b3a_01b35_01b3b, 0x1b3c_01b35_01b3d,
  0x1b3e_01b35_01b40, 0x1b3f_01b35_01b41, 0x1b42_01b35_01b43, 0x1e36_00304_01e38,
  0x1e37_00304_01e39, 0x1e5a_00304_01e5c, 0x1e5b_00304_01e5d, 0x1e62_00307_01e68,
  0x1e63_00307_01e69, 0x1ea0_00302_01eac, 0x1ea0_00306_01eb6, 0x1ea1_00302_01ead,
  0x1ea1_00306_01eb7, 0x1eb8_00302_01ec6, 0x1eb9_00302_01ec7, 0x1ecc_00302_01ed8,
  0x1ecd_00302_01ed9, 0x1f00_00300_01f02, 0x1f00_00301_01f04, 0x1f00_00342_01f06,
  0x1f00_00345_01f80, 0x1f01_00300_01f03, 0x1f01_00301_01f05, 0x1f01_00342_01f07,
  0x1f01_00345_01f81, 0x1f02_00345_01f82, 0x1f03_00345_01f83, 0x1f04_00345_01f84,
  0x1f05_00345_01f85, 0x1f06_00345_01f86, 0x1f07_00345_01f87, 0x1f08_00300_01f0a,
  0x1f08_00301_01f0c, 0x1f08_00342_01f0e, 0x1f08_00345_01f88, 0x1f09_00300_01f0b,
  0x1f09_00301_01f0d, 0x1f09_00342_01f0f, 0x1f09_00345_01f89, 0x1f0a_00345_01f8a,
  0x1f0b_00345_01f8b, 0x1f0c_00345_01f8c, 0x1f0d_00345_01f8d, 0x1f0e_00345_01f8e,
  0x1f0f_00345_01f8f, 0x1f10_00300_01f12, 0x1f10_00301_01f14, 0x1f11_00300_01f13,
  0x1f11_00301_01f15, 0x1f18_00300_01f1a, 0x1f18_00301_01f1c, 0x1f19_00300_01f1b,
  0x1f19_00301_01f1d, 0x1f20_00300_01f22, 0x1f20_00301_01f24, 0x1f20_00342_01f26,
  0x1f20_00345_01f90, 0x1f21_00300_01f23, 0x1f21_00301_01f25, 0x1f21_00342_01f27,
  0x1f21_00345_01f91, 0x1f22_00345_01f92, 0x1f23_00345_01f93, 0x1f24_00345_01f94,
  0x1f25_00345_01f95, 0x1f26_00345_01f96, 0x1f27_00345_01f97, 0x1f28_00300_01f2a,
  0x1f28_00301_01f2c, 0x1f28_00342_01f2e, 0x1f28_00345_01f98, 0x1f29_00300_01f2b,
  0x1f29_00301_01f2d, 0x1f29_00342_01f2f, 0x1f29_00345_01f99, 0x1f2a_00345_01f9a,
  0x1f2b_00345_01f9b, 0x1f2c_00345_01f9c, 0x1f2d_00345_01f9d, 0x1f2e_00345_01f9e,
  0x1f2f_00345_01f9f, 0x1f30_00300_01f32, 0x1f30_00301_01f34, 0x1f30_00342_01f36,
  0x1f31_00300_01f33, 0x1f31_00301_01f35, 0x1f31_00342_01f37, 0x1f38_00300_01f3a,
  0x1f38_00301_01f3c, 0x1f38_00342_01f3e, 0x1f39_00300_01f3b, 0x1f39_00301_01f3d,
  0x1f39_00342_01f3f, 0x1f40_00300_01f42, 0x1f40_00301_01f44, 0x1f41_00300_01f43,
  0x1f41_00301_01f45, 0x1f48_00300_01f4a, 0x1f48_00301_01f4c, 0x1f49_00300_01f4b,
  0x1f49_00301_01f4d, 0x1f50_00300_01f52, 0x1f50_00301_01f54, 0x1f50_00342_01f56,
  0x1f51_00300_01f53, 0x1f51_00301_01f55, 0x1f51_00342_01f57, 0x1f59_00300_01f5b,
  0x1f59_00301_01f5d, 0x1f59_00342_01f5f, 0x1f60_00300_01f62, 0x1f60_00301_01f64,
  0x1f60_00342_01f66, 0x1f60_00345_01fa0, 0x1f61_00300_01f63, 0x1f61_00301_01f65,
  0x1f61_00342_01f67, 0x1f61_00345_01fa1, 0x1f62_00345_01fa2, 0x1f63_00345_01fa3,
  0x1f64_00345_01fa4, 0x1f65_00345_01fa5, 0x1f66_00345_01fa6, 0x1f67_00345_01fa7,
  0x1f68_00300_01f6a, 0x1f68_00301_01f6c, 0x1f68_00342_01f6e, 0x1f68_00345_01fa8,
  0x1f69_00300_01f6b, 0x1f69_00301_01f6d, 0x1f69_00342_01f6f, 0x1f69_00345_01fa9,
  0x1f6a_00345_01faa, 0x1f6b_00345_01fab, 0x1f6c_00345_01fac, 0x1f6d_00345_01fad,
  0x1f6e_00345_01fae, 0x1f6f_00345_01faf, 0x1f70_00345_01fb2, 0x1f74_00345_01fc2,
  0x1f7c_00345_01ff2, 0x1fb6_00345_01fb7, 0x1fc6_00345_01fc7, 0x1ff6_00345_01ff7,
  0x3046_03099_03094, 0x304b_03099_0304c, 0x304d_03099_0304e, 0x304f_03099_03050,
  0x3051_03099_03052, 0x3053_03099_03054, 0x3055_03099_03056, 0x3057_03099_03058,
  0x3059_03099_0305a, 0x305b_03099_0305c, 0x305d_03099_0305e, 0x305f_03099_03060,
  0x3061_03099_03062, 0x3064_03099_03065, 0x3066_03099_03067, 0x3068_03099_03069,
  0x306f_03099_03070, 0x306f_0309a_03071, 0x3072_03099_03073, 0x3072_0309a_03074,
  0x3075_03099_03076, 0x3075_0309a_03077, 0x3078_03099_03079, 0x3078_0309a_0307a,
  0x307b_03099_0307c, 0x307b_0309a_0307d, 0x309d_03099_0309e, 0x30a6_03099_030f4,
  0x30ab_03099_030ac, 0x30ad_03099_030ae, 0x30af_03099_030b0, 0x30b1_03099_030b2,
  0x30b3_03099_030b4, 0x30b5_03099_030b6, 0x30b7_03099_030b8, 0x30b9_03099_030ba,
  0x30bb_03099_030bc, 0x30bd_03099_030be, 0x30bf_03099_030c0, 0x30c1_03099_030c2,
  0x30c4_03099_030c5, 0x30c6_03099_030c7, 0x30c8_03099_030c9, 0x30cf_03099_030d0,
  0x30cf_0309a_030d1, 0x30d2_03099_030d3, 0x30d2_0309a_030d4, 0x30d5_03099_030d6,
  0x30d5_0309a_030d7, 0x30d8_03099_030d9, 0x30d8_0309a_030da, 0x30db_03099_030dc,
  0x30db_0309a_030dd, 0x30ef_03099_030f7, 0x30f0_03099_030f8, 0x30f1_03099_030f9,
  0x30f2_03099_030fa, 0x30fd_03099_030fe, 0x11099_110ba_1109a, 0x1109b_110ba_1109c,
  0x110a5_110ba_110ab, 0x11131_11127_1112e, 0x11132_11127_1112f, 0x11347_1133e_1134b,
  0x11347_11357_1134c, 0x114b9_114b0_114bc, 0x114b9_114ba_114bb, 0x114b9_114bd_114be,
  0x115b8_115af_115ba, 0x115b9_115af_115bb, 0x11935_11930_11938]

/-- What a character stands for. -/
def decomposed (c : Nat) : List Nat :=
  if 0xac00 ≤ c ∧ c ≤ 0xd7a3 then
    let s := c - 0xac00
    let last := s % 28
    [0x1100 + s / 588, 0x1161 + s % 588 / 28] ++ (if last = 0 then [] else [0x11a7 + last])
  else
    let several := decompositions.find? fun row => row.head? == some c
    let one := simpleDecompositions.findSome? fun
      | [first, last, step, image] =>
        if first ≤ c ∧ c ≤ last ∧ (c - first) % step = 0 then some (image + (c - first) / step)
        else none
      | _ => none
    match several, one with
    | some row, _ => row.tail
    | none, some image => [image]
    | none, none => [c]

/-- The class of a mark; zero for everything else. -/
def markClass (c : Nat) : Nat :=
  (markClasses.findSome? fun
    | [first, last, cls] => if first ≤ c ∧ c ≤ last then some cls else none
    | _ => none).getD 0

/-- Puts a mark in front of a text, behind the marks of lower classes. -/
def insertMark (cls mark : Nat) : List (Nat × Nat) → List (Nat × Nat)
  | [] => [(cls, mark)]
  | (d, c) :: rest =>
    if d ≠ 0 ∧ d < cls then (d, c) :: insertMark cls mark rest else (cls, mark) :: (d, c) :: rest

/-- A text with the marks on each letter in the order of their classes, each with its class. -/
def orderedMarks : List Nat → List (Nat × Nat)
  | [] => []
  | c :: cs =>
    if markClass c = 0 then (0, c) :: orderedMarks cs
    else insertMark (markClass c) c (orderedMarks cs)

/-- The character that stands for a pair. -/
def composed? (a b : Nat) : Option Nat :=
  if 0x1100 ≤ a ∧ a < 0x1113 ∧ 0x1161 ≤ b ∧ b < 0x1176 then
    some (0xac00 + ((a - 0x1100) * 21 + (b - 0x1161)) * 28)
  else if 0xac00 ≤ a ∧ a ≤ 0xd7a3 ∧ (a - 0xac00) % 28 = 0 ∧ 0x11a8 ≤ b ∧ b < 0x11c3 then
    some (a + (b - 0x11a7))
  else compositions.findSome? fun
    | [first, second, whole] => if first = a ∧ second = b then some whole else none
    | _ => none

/-- Puts a text together behind a letter; `kept` are the marks read since that stay, the last first,
and `highest` is the class of the last of them. -/
def recomposed : (letter : Nat) → (highest : Nat) → (kept : List Nat) → List (Nat × Nat) → List Nat
  | letter, _, kept, [] => letter :: kept.reverse
  | letter, highest, kept, (cls, c) :: rest =>
    match if kept.isEmpty || highest < cls then composed? letter c else none with
    | some whole => recomposed whole highest kept rest
    | none =>
      if cls = 0 then letter :: kept.reverse ++ recomposed c 0 [] rest
      else recomposed letter cls (c :: kept) rest

/-- The compatible spelling of a text. -/
def compatible (cs : List Char) : List Char :=
  if cs.all fun c => decide (c.toNat < 0x80) then cs
  else match orderedMarks ((cs.map Char.toNat).flatMap decomposed) with
    | [] => []
    | (_, c) :: rest => (recomposed c 0 [] rest).map Char.ofNat

def compatibleName (s : String) : String := String.ofList (compatible s.toList)

end Transclusion.Text
