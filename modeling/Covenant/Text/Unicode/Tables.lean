/-!
# Unicode character tables

Tables of Unicode 17.0 character properties and full case mappings, written compactly as
text: a property is a list of hexadecimal ranges `lo,hi;` (or `cp;` for one character), in
increasing order; a case mapping lists each character that changes with the characters it
maps to. `Covenant.Text.Unicode` reads them into arrays once.
-/

namespace Covenant.Text.Unicode

/-- Characters with the Alphabetic property. -/
def alphabeticText : String :=
  String.join [
    "41,5a;61,7a;aa;b5;ba;c0,d6;d8,f6;f8,2c1;2c6,2d1;2e0,2e4;2ec;2ee;345;363,374;376,377;",
    "37a,37d;37f;386;388,38a;38c;38e,3a1;3a3,3f5;3f7,481;48a,52f;531,556;559;560,588;",
    "5b0,5bd;5bf;5c1,5c2;5c4,5c5;5c7;5d0,5ea;5ef,5f2;610,61a;620,657;659,65f;66e,6d3;",
    "6d5,6dc;6e1,6e8;6ed,6ef;6fa,6fc;6ff;710,73f;74d,7b1;7ca,7ea;7f4,7f5;7fa;800,817;",
    "81a,82c;840,858;860,86a;870,887;889,88f;897;8a0,8c9;8d4,8df;8e3,8e9;8f0,93b;93d,94c;",
    "94e,950;955,963;971,983;985,98c;98f,990;993,9a8;9aa,9b0;9b2;9b6,9b9;9bd,9c4;9c7,9c8;",
    "9cb,9cc;9ce;9d7;9dc,9dd;9df,9e3;9f0,9f1;9fc;a01,a03;a05,a0a;a0f,a10;a13,a28;a2a,a30;",
    "a32,a33;a35,a36;a38,a39;a3e,a42;a47,a48;a4b,a4c;a51;a59,a5c;a5e;a70,a75;a81,a83;",
    "a85,a8d;a8f,a91;a93,aa8;aaa,ab0;ab2,ab3;ab5,ab9;abd,ac5;ac7,ac9;acb,acc;ad0;ae0,ae3;",
    "af9,afc;b01,b03;b05,b0c;b0f,b10;b13,b28;b2a,b30;b32,b33;b35,b39;b3d,b44;b47,b48;",
    "b4b,b4c;b56,b57;b5c,b5d;b5f,b63;b71;b82,b83;b85,b8a;b8e,b90;b92,b95;b99,b9a;b9c;",
    "b9e,b9f;ba3,ba4;ba8,baa;bae,bb9;bbe,bc2;bc6,bc8;bca,bcc;bd0;bd7;c00,c0c;c0e,c10;",
    "c12,c28;c2a,c39;c3d,c44;c46,c48;c4a,c4c;c55,c56;c58,c5a;c5c,c5d;c60,c63;c80,c83;",
    "c85,c8c;c8e,c90;c92,ca8;caa,cb3;cb5,cb9;cbd,cc4;cc6,cc8;cca,ccc;cd5,cd6;cdc,cde;",
    "ce0,ce3;cf1,cf3;d00,d0c;d0e,d10;d12,d3a;d3d,d44;d46,d48;d4a,d4c;d4e;d54,d57;d5f,d63;",
    "d7a,d7f;d81,d83;d85,d96;d9a,db1;db3,dbb;dbd;dc0,dc6;dcf,dd4;dd6;dd8,ddf;df2,df3;",
    "e01,e3a;e40,e46;e4d;e81,e82;e84;e86,e8a;e8c,ea3;ea5;ea7,eb9;ebb,ebd;ec0,ec4;ec6;ecd;",
    "edc,edf;f00;f40,f47;f49,f6c;f71,f83;f88,f97;f99,fbc;1000,1036;1038;103b,103f;",
    "1050,108f;109a,109d;10a0,10c5;10c7;10cd;10d0,10fa;10fc,1248;124a,124d;1250,1256;1258;",
    "125a,125d;1260,1288;128a,128d;1290,12b0;12b2,12b5;12b8,12be;12c0;12c2,12c5;12c8,12d6;",
    "12d8,1310;1312,1315;1318,135a;1380,138f;13a0,13f5;13f8,13fd;1401,166c;166f,167f;",
    "1681,169a;16a0,16ea;16ee,16f8;1700,1713;171f,1733;1740,1753;1760,176c;176e,1770;",
    "1772,1773;1780,17b3;17b6,17c8;17d7;17dc;1820,1878;1880,18aa;18b0,18f5;1900,191e;",
    "1920,192b;1930,1938;1950,196d;1970,1974;1980,19ab;19b0,19c9;1a00,1a1b;1a20,1a5e;",
    "1a61,1a74;1aa7;1abf,1ac0;1acc,1ace;1b00,1b33;1b35,1b43;1b45,1b4c;1b80,1ba9;1bac,1baf;",
    "1bba,1be5;1be7,1bf1;1c00,1c36;1c4d,1c4f;1c5a,1c7d;1c80,1c8a;1c90,1cba;1cbd,1cbf;",
    "1ce9,1cec;1cee,1cf3;1cf5,1cf6;1cfa;1d00,1dbf;1dd3,1df4;1e00,1f15;1f18,1f1d;1f20,1f45;",
    "1f48,1f4d;1f50,1f57;1f59;1f5b;1f5d;1f5f,1f7d;1f80,1fb4;1fb6,1fbc;1fbe;1fc2,1fc4;",
    "1fc6,1fcc;1fd0,1fd3;1fd6,1fdb;1fe0,1fec;1ff2,1ff4;1ff6,1ffc;2071;207f;2090,209c;2102;",
    "2107;210a,2113;2115;2119,211d;2124;2126;2128;212a,212d;212f,2139;213c,213f;2145,2149;",
    "214e;2160,2188;24b6,24e9;2c00,2ce4;2ceb,2cee;2cf2,2cf3;2d00,2d25;2d27;2d2d;2d30,2d67;",
    "2d6f;2d80,2d96;2da0,2da6;2da8,2dae;2db0,2db6;2db8,2dbe;2dc0,2dc6;2dc8,2dce;2dd0,2dd6;",
    "2dd8,2dde;2de0,2dff;2e2f;3005,3007;3021,3029;3031,3035;3038,303c;3041,3096;309d,309f;",
    "30a1,30fa;30fc,30ff;3105,312f;3131,318e;31a0,31bf;31f0,31ff;3400,4dbf;4e00,a48c;",
    "a4d0,a4fd;a500,a60c;a610,a61f;a62a,a62b;a640,a66e;a674,a67b;a67f,a6ef;a717,a71f;",
    "a722,a788;a78b,a7dc;a7f1,a805;a807,a827;a840,a873;a880,a8c3;a8c5;a8f2,a8f7;a8fb;",
    "a8fd,a8ff;a90a,a92a;a930,a952;a960,a97c;a980,a9b2;a9b4,a9bf;a9cf;a9e0,a9ef;a9fa,a9fe;",
    "aa00,aa36;aa40,aa4d;aa60,aa76;aa7a,aabe;aac0;aac2;aadb,aadd;aae0,aaef;aaf2,aaf5;",
    "ab01,ab06;ab09,ab0e;ab11,ab16;ab20,ab26;ab28,ab2e;ab30,ab5a;ab5c,ab69;ab70,abea;",
    "ac00,d7a3;d7b0,d7c6;d7cb,d7fb;f900,fa6d;fa70,fad9;fb00,fb06;fb13,fb17;fb1d,fb28;",
    "fb2a,fb36;fb38,fb3c;fb3e;fb40,fb41;fb43,fb44;fb46,fbb1;fbd3,fd3d;fd50,fd8f;fd92,fdc7;",
    "fdf0,fdfb;fe70,fe74;fe76,fefc;ff21,ff3a;ff41,ff5a;ff66,ffbe;ffc2,ffc7;ffca,ffcf;",
    "ffd2,ffd7;ffda,ffdc;10000,1000b;1000d,10026;10028,1003a;1003c,1003d;1003f,1004d;",
    "10050,1005d;10080,100fa;10140,10174;10280,1029c;102a0,102d0;10300,1031f;1032d,1034a;",
    "10350,1037a;10380,1039d;103a0,103c3;103c8,103cf;103d1,103d5;10400,1049d;104b0,104d3;",
    "104d8,104fb;10500,10527;10530,10563;10570,1057a;1057c,1058a;1058c,10592;10594,10595;",
    "10597,105a1;105a3,105b1;105b3,105b9;105bb,105bc;105c0,105f3;10600,10736;10740,10755;",
    "10760,10767;10780,10785;10787,107b0;107b2,107ba;10800,10805;10808;1080a,10835;",
    "10837,10838;1083c;1083f,10855;10860,10876;10880,1089e;108e0,108f2;108f4,108f5;",
    "10900,10915;10920,10939;10940,10959;10980,109b7;109be,109bf;10a00,10a03;10a05,10a06;",
    "10a0c,10a13;10a15,10a17;10a19,10a35;10a60,10a7c;10a80,10a9c;10ac0,10ac7;10ac9,10ae4;",
    "10b00,10b35;10b40,10b55;10b60,10b72;10b80,10b91;10c00,10c48;10c80,10cb2;10cc0,10cf2;",
    "10d00,10d27;10d4a,10d65;10d69;10d6f,10d85;10e80,10ea9;10eab,10eac;10eb0,10eb1;",
    "10ec2,10ec7;10efa,10efc;10f00,10f1c;10f27;10f30,10f45;10f70,10f81;10fb0,10fc4;",
    "10fe0,10ff6;11000,11045;11071,11075;11080,110b8;110c2;110d0,110e8;11100,11132;",
    "11144,11147;11150,11172;11176;11180,111bf;111c1,111c4;111ce,111cf;111da;111dc;",
    "11200,11211;11213,11234;11237;1123e,11241;11280,11286;11288;1128a,1128d;1128f,1129d;",
    "1129f,112a8;112b0,112e8;11300,11303;11305,1130c;1130f,11310;11313,11328;1132a,11330;",
    "11332,11333;11335,11339;1133d,11344;11347,11348;1134b,1134c;11350;11357;1135d,11363;",
    "11380,11389;1138b;1138e;11390,113b5;113b7,113c0;113c2;113c5;113c7,113ca;113cc,113cd;",
    "113d1;113d3;11400,11441;11443,11445;11447,1144a;1145f,11461;11480,114c1;114c4,114c5;",
    "114c7;11580,115b5;115b8,115be;115d8,115dd;11600,1163e;11640;11644;11680,116b5;116b8;",
    "11700,1171a;1171d,1172a;11740,11746;11800,11838;118a0,118df;118ff,11906;11909;",
    "1190c,11913;11915,11916;11918,11935;11937,11938;1193b,1193c;1193f,11942;119a0,119a7;",
    "119aa,119d7;119da,119df;119e1;119e3,119e4;11a00,11a32;11a35,11a3e;11a50,11a97;11a9d;",
    "11ab0,11af8;11b60,11b67;11bc0,11be0;11c00,11c08;11c0a,11c36;11c38,11c3e;11c40;",
    "11c72,11c8f;11c92,11ca7;11ca9,11cb6;11d00,11d06;11d08,11d09;11d0b,11d36;11d3a;",
    "11d3c,11d3d;11d3f,11d41;11d43;11d46,11d47;11d60,11d65;11d67,11d68;11d6a,11d8e;",
    "11d90,11d91;11d93,11d96;11d98;11db0,11ddb;11ee0,11ef6;11f00,11f10;11f12,11f3a;",
    "11f3e,11f40;11fb0;12000,12399;12400,1246e;12480,12543;12f90,12ff0;13000,1342f;",
    "13441,13446;13460,143fa;14400,14646;16100,1612e;16800,16a38;16a40,16a5e;16a70,16abe;",
    "16ad0,16aed;16b00,16b2f;16b40,16b43;16b63,16b77;16b7d,16b8f;16d40,16d6c;16e40,16e7f;",
    "16ea0,16eb8;16ebb,16ed3;16f00,16f4a;16f4f,16f87;16f8f,16f9f;16fe0,16fe1;16fe3;",
    "16ff0,16ff6;17000,18cd5;18cff,18d1e;18d80,18df2;1aff0,1aff3;1aff5,1affb;1affd,1affe;",
    "1b000,1b122;1b132;1b150,1b152;1b155;1b164,1b167;1b170,1b2fb;1bc00,1bc6a;1bc70,1bc7c;",
    "1bc80,1bc88;1bc90,1bc99;1bc9e;1d400,1d454;1d456,1d49c;1d49e,1d49f;1d4a2;1d4a5,1d4a6;",
    "1d4a9,1d4ac;1d4ae,1d4b9;1d4bb;1d4bd,1d4c3;1d4c5,1d505;1d507,1d50a;1d50d,1d514;",
    "1d516,1d51c;1d51e,1d539;1d53b,1d53e;1d540,1d544;1d546;1d54a,1d550;1d552,1d6a5;",
    "1d6a8,1d6c0;1d6c2,1d6da;1d6dc,1d6fa;1d6fc,1d714;1d716,1d734;1d736,1d74e;1d750,1d76e;",
    "1d770,1d788;1d78a,1d7a8;1d7aa,1d7c2;1d7c4,1d7cb;1df00,1df1e;1df25,1df2a;1e000,1e006;",
    "1e008,1e018;1e01b,1e021;1e023,1e024;1e026,1e02a;1e030,1e06d;1e08f;1e100,1e12c;",
    "1e137,1e13d;1e14e;1e290,1e2ad;1e2c0,1e2eb;1e4d0,1e4eb;1e5d0,1e5ed;1e5f0;1e6c0,1e6de;",
    "1e6e0,1e6f5;1e6fe,1e6ff;1e7e0,1e7e6;1e7e8,1e7eb;1e7ed,1e7ee;1e7f0,1e7fe;1e800,1e8c4;",
    "1e900,1e943;1e947;1e94b;1ee00,1ee03;1ee05,1ee1f;1ee21,1ee22;1ee24;1ee27;1ee29,1ee32;",
    "1ee34,1ee37;1ee39;1ee3b;1ee42;1ee47;1ee49;1ee4b;1ee4d,1ee4f;1ee51,1ee52;1ee54;1ee57;",
    "1ee59;1ee5b;1ee5d;1ee5f;1ee61,1ee62;1ee64;1ee67,1ee6a;1ee6c,1ee72;1ee74,1ee77;",
    "1ee79,1ee7c;1ee7e;1ee80,1ee89;1ee8b,1ee9b;1eea1,1eea3;1eea5,1eea9;1eeab,1eebb;",
    "1f130,1f149;1f150,1f169;1f170,1f189;20000,2a6df;2a700,2b81d;2b820,2cead;2ceb0,2ebe0;",
    "2ebf0,2ee5d;2f800,2fa1d;30000,3134a;31350,33479;"]

/-- Characters of the number categories (decimal digits, letter numbers, other numbers). -/
def numericText : String :=
  String.join [
    "30,39;b2,b3;b9;bc,be;660,669;6f0,6f9;7c0,7c9;966,96f;9e6,9ef;9f4,9f9;a66,a6f;ae6,aef;",
    "b66,b6f;b72,b77;be6,bf2;c66,c6f;c78,c7e;ce6,cef;d58,d5e;d66,d78;de6,def;e50,e59;",
    "ed0,ed9;f20,f33;1040,1049;1090,1099;1369,137c;16ee,16f0;17e0,17e9;17f0,17f9;1810,1819;",
    "1946,194f;19d0,19da;1a80,1a89;1a90,1a99;1b50,1b59;1bb0,1bb9;1c40,1c49;1c50,1c59;2070;",
    "2074,2079;2080,2089;2150,2182;2185,2189;2460,249b;24ea,24ff;2776,2793;2cfd;3007;",
    "3021,3029;3038,303a;3192,3195;3220,3229;3248,324f;3251,325f;3280,3289;32b1,32bf;",
    "a620,a629;a6e6,a6ef;a830,a835;a8d0,a8d9;a900,a909;a9d0,a9d9;a9f0,a9f9;aa50,aa59;",
    "abf0,abf9;ff10,ff19;10107,10133;10140,10178;1018a,1018b;102e1,102fb;10320,10323;10341;",
    "1034a;103d1,103d5;104a0,104a9;10858,1085f;10879,1087f;108a7,108af;108fb,108ff;",
    "10916,1091b;109bc,109bd;109c0,109cf;109d2,109ff;10a40,10a48;10a7d,10a7e;10a9d,10a9f;",
    "10aeb,10aef;10b58,10b5f;10b78,10b7f;10ba9,10baf;10cfa,10cff;10d30,10d39;10d40,10d49;",
    "10e60,10e7e;10f1d,10f26;10f51,10f54;10fc5,10fcb;11052,1106f;110f0,110f9;11136,1113f;",
    "111d0,111d9;111e1,111f4;112f0,112f9;11450,11459;114d0,114d9;11650,11659;116c0,116c9;",
    "116d0,116e3;11730,1173b;118e0,118f2;11950,11959;11bf0,11bf9;11c50,11c6c;11d50,11d59;",
    "11da0,11da9;11de0,11de9;11f50,11f59;11fc0,11fd4;12400,1246e;16130,16139;16a60,16a69;",
    "16ac0,16ac9;16b50,16b59;16b5b,16b61;16d70,16d79;16e80,16e96;16ff4,16ff6;1ccf0,1ccf9;",
    "1d2c0,1d2d3;1d2e0,1d2f3;1d360,1d378;1d7ce,1d7ff;1e140,1e149;1e2f0,1e2f9;1e4f0,1e4f9;",
    "1e5f1,1e5fa;1e8c7,1e8cf;1e950,1e959;1ec71,1ecab;1ecad,1ecaf;1ecb1,1ecb4;1ed01,1ed2d;",
    "1ed2f,1ed3d;1f100,1f10c;1fbf0,1fbf9;"]

/-- Characters with the Lowercase property. -/
def lowercaseText : String :=
  String.join [
    "61,7a;aa;b5;ba;df,f6;f8,ff;101;103;105;107;109;10b;10d;10f;111;113;115;117;119;11b;",
    "11d;11f;121;123;125;127;129;12b;12d;12f;131;133;135;137,138;13a;13c;13e;140;142;144;",
    "146;148,149;14b;14d;14f;151;153;155;157;159;15b;15d;15f;161;163;165;167;169;16b;16d;",
    "16f;171;173;175;177;17a;17c;17e,180;183;185;188;18c,18d;192;195;199,19b;19e;1a1;1a3;",
    "1a5;1a8;1aa,1ab;1ad;1b0;1b4;1b6;1b9,1ba;1bd,1bf;1c6;1c9;1cc;1ce;1d0;1d2;1d4;1d6;1d8;",
    "1da;1dc,1dd;1df;1e1;1e3;1e5;1e7;1e9;1eb;1ed;1ef,1f0;1f3;1f5;1f9;1fb;1fd;1ff;201;203;",
    "205;207;209;20b;20d;20f;211;213;215;217;219;21b;21d;21f;221;223;225;227;229;22b;22d;",
    "22f;231;233,239;23c;23f,240;242;247;249;24b;24d;24f,293;296,2b8;2c0,2c1;2e0,2e4;345;",
    "371;373;377;37a,37d;390;3ac,3ce;3d0,3d1;3d5,3d7;3d9;3db;3dd;3df;3e1;3e3;3e5;3e7;3e9;",
    "3eb;3ed;3ef,3f3;3f5;3f8;3fb,3fc;430,45f;461;463;465;467;469;46b;46d;46f;471;473;475;",
    "477;479;47b;47d;47f;481;48b;48d;48f;491;493;495;497;499;49b;49d;49f;4a1;4a3;4a5;4a7;",
    "4a9;4ab;4ad;4af;4b1;4b3;4b5;4b7;4b9;4bb;4bd;4bf;4c2;4c4;4c6;4c8;4ca;4cc;4ce,4cf;4d1;",
    "4d3;4d5;4d7;4d9;4db;4dd;4df;4e1;4e3;4e5;4e7;4e9;4eb;4ed;4ef;4f1;4f3;4f5;4f7;4f9;4fb;",
    "4fd;4ff;501;503;505;507;509;50b;50d;50f;511;513;515;517;519;51b;51d;51f;521;523;525;",
    "527;529;52b;52d;52f;560,588;10d0,10fa;10fc,10ff;13f8,13fd;1c80,1c88;1c8a;1d00,1dbf;",
    "1e01;1e03;1e05;1e07;1e09;1e0b;1e0d;1e0f;1e11;1e13;1e15;1e17;1e19;1e1b;1e1d;1e1f;1e21;",
    "1e23;1e25;1e27;1e29;1e2b;1e2d;1e2f;1e31;1e33;1e35;1e37;1e39;1e3b;1e3d;1e3f;1e41;1e43;",
    "1e45;1e47;1e49;1e4b;1e4d;1e4f;1e51;1e53;1e55;1e57;1e59;1e5b;1e5d;1e5f;1e61;1e63;1e65;",
    "1e67;1e69;1e6b;1e6d;1e6f;1e71;1e73;1e75;1e77;1e79;1e7b;1e7d;1e7f;1e81;1e83;1e85;1e87;",
    "1e89;1e8b;1e8d;1e8f;1e91;1e93;1e95,1e9d;1e9f;1ea1;1ea3;1ea5;1ea7;1ea9;1eab;1ead;1eaf;",
    "1eb1;1eb3;1eb5;1eb7;1eb9;1ebb;1ebd;1ebf;1ec1;1ec3;1ec5;1ec7;1ec9;1ecb;1ecd;1ecf;1ed1;",
    "1ed3;1ed5;1ed7;1ed9;1edb;1edd;1edf;1ee1;1ee3;1ee5;1ee7;1ee9;1eeb;1eed;1eef;1ef1;1ef3;",
    "1ef5;1ef7;1ef9;1efb;1efd;1eff,1f07;1f10,1f15;1f20,1f27;1f30,1f37;1f40,1f45;1f50,1f57;",
    "1f60,1f67;1f70,1f7d;1f80,1f87;1f90,1f97;1fa0,1fa7;1fb0,1fb4;1fb6,1fb7;1fbe;1fc2,1fc4;",
    "1fc6,1fc7;1fd0,1fd3;1fd6,1fd7;1fe0,1fe7;1ff2,1ff4;1ff6,1ff7;2071;207f;2090,209c;210a;",
    "210e,210f;2113;212f;2134;2139;213c,213d;2146,2149;214e;2170,217f;2184;24d0,24e9;",
    "2c30,2c5f;2c61;2c65,2c66;2c68;2c6a;2c6c;2c71;2c73,2c74;2c76,2c7d;2c81;2c83;2c85;2c87;",
    "2c89;2c8b;2c8d;2c8f;2c91;2c93;2c95;2c97;2c99;2c9b;2c9d;2c9f;2ca1;2ca3;2ca5;2ca7;2ca9;",
    "2cab;2cad;2caf;2cb1;2cb3;2cb5;2cb7;2cb9;2cbb;2cbd;2cbf;2cc1;2cc3;2cc5;2cc7;2cc9;2ccb;",
    "2ccd;2ccf;2cd1;2cd3;2cd5;2cd7;2cd9;2cdb;2cdd;2cdf;2ce1;2ce3,2ce4;2cec;2cee;2cf3;",
    "2d00,2d25;2d27;2d2d;a641;a643;a645;a647;a649;a64b;a64d;a64f;a651;a653;a655;a657;a659;",
    "a65b;a65d;a65f;a661;a663;a665;a667;a669;a66b;a66d;a681;a683;a685;a687;a689;a68b;a68d;",
    "a68f;a691;a693;a695;a697;a699;a69b,a69d;a723;a725;a727;a729;a72b;a72d;a72f,a731;a733;",
    "a735;a737;a739;a73b;a73d;a73f;a741;a743;a745;a747;a749;a74b;a74d;a74f;a751;a753;a755;",
    "a757;a759;a75b;a75d;a75f;a761;a763;a765;a767;a769;a76b;a76d;a76f,a778;a77a;a77c;a77f;",
    "a781;a783;a785;a787;a78c;a78e;a791;a793,a795;a797;a799;a79b;a79d;a79f;a7a1;a7a3;a7a5;",
    "a7a7;a7a9;a7af;a7b5;a7b7;a7b9;a7bb;a7bd;a7bf;a7c1;a7c3;a7c8;a7ca;a7cd;a7cf;a7d1;a7d3;",
    "a7d5;a7d7;a7d9;a7db;a7f1,a7f4;a7f6;a7f8,a7fa;ab30,ab5a;ab5c,ab69;ab70,abbf;fb00,fb06;",
    "fb13,fb17;ff41,ff5a;10428,1044f;104d8,104fb;10597,105a1;105a3,105b1;105b3,105b9;",
    "105bb,105bc;10780;10783,10785;10787,107b0;107b2,107ba;10cc0,10cf2;10d70,10d85;",
    "118c0,118df;16e60,16e7f;16ebb,16ed3;1d41a,1d433;1d44e,1d454;1d456,1d467;1d482,1d49b;",
    "1d4b6,1d4b9;1d4bb;1d4bd,1d4c3;1d4c5,1d4cf;1d4ea,1d503;1d51e,1d537;1d552,1d56b;",
    "1d586,1d59f;1d5ba,1d5d3;1d5ee,1d607;1d622,1d63b;1d656,1d66f;1d68a,1d6a5;1d6c2,1d6da;",
    "1d6dc,1d6e1;1d6fc,1d714;1d716,1d71b;1d736,1d74e;1d750,1d755;1d770,1d788;1d78a,1d78f;",
    "1d7aa,1d7c2;1d7c4,1d7c9;1d7cb;1df00,1df09;1df0b,1df1e;1df25,1df2a;1e030,1e06d;",
    "1e922,1e943;"]

/-- Characters with the Uppercase property. -/
def uppercaseText : String :=
  String.join [
    "41,5a;c0,d6;d8,de;100;102;104;106;108;10a;10c;10e;110;112;114;116;118;11a;11c;11e;120;",
    "122;124;126;128;12a;12c;12e;130;132;134;136;139;13b;13d;13f;141;143;145;147;14a;14c;",
    "14e;150;152;154;156;158;15a;15c;15e;160;162;164;166;168;16a;16c;16e;170;172;174;176;",
    "178,179;17b;17d;181,182;184;186,187;189,18b;18e,191;193,194;196,198;19c,19d;19f,1a0;",
    "1a2;1a4;1a6,1a7;1a9;1ac;1ae,1af;1b1,1b3;1b5;1b7,1b8;1bc;1c4;1c7;1ca;1cd;1cf;1d1;1d3;",
    "1d5;1d7;1d9;1db;1de;1e0;1e2;1e4;1e6;1e8;1ea;1ec;1ee;1f1;1f4;1f6,1f8;1fa;1fc;1fe;200;",
    "202;204;206;208;20a;20c;20e;210;212;214;216;218;21a;21c;21e;220;222;224;226;228;22a;",
    "22c;22e;230;232;23a,23b;23d,23e;241;243,246;248;24a;24c;24e;370;372;376;37f;386;",
    "388,38a;38c;38e,38f;391,3a1;3a3,3ab;3cf;3d2,3d4;3d8;3da;3dc;3de;3e0;3e2;3e4;3e6;3e8;",
    "3ea;3ec;3ee;3f4;3f7;3f9,3fa;3fd,42f;460;462;464;466;468;46a;46c;46e;470;472;474;476;",
    "478;47a;47c;47e;480;48a;48c;48e;490;492;494;496;498;49a;49c;49e;4a0;4a2;4a4;4a6;4a8;",
    "4aa;4ac;4ae;4b0;4b2;4b4;4b6;4b8;4ba;4bc;4be;4c0,4c1;4c3;4c5;4c7;4c9;4cb;4cd;4d0;4d2;",
    "4d4;4d6;4d8;4da;4dc;4de;4e0;4e2;4e4;4e6;4e8;4ea;4ec;4ee;4f0;4f2;4f4;4f6;4f8;4fa;4fc;",
    "4fe;500;502;504;506;508;50a;50c;50e;510;512;514;516;518;51a;51c;51e;520;522;524;526;",
    "528;52a;52c;52e;531,556;10a0,10c5;10c7;10cd;13a0,13f5;1c89;1c90,1cba;1cbd,1cbf;1e00;",
    "1e02;1e04;1e06;1e08;1e0a;1e0c;1e0e;1e10;1e12;1e14;1e16;1e18;1e1a;1e1c;1e1e;1e20;1e22;",
    "1e24;1e26;1e28;1e2a;1e2c;1e2e;1e30;1e32;1e34;1e36;1e38;1e3a;1e3c;1e3e;1e40;1e42;1e44;",
    "1e46;1e48;1e4a;1e4c;1e4e;1e50;1e52;1e54;1e56;1e58;1e5a;1e5c;1e5e;1e60;1e62;1e64;1e66;",
    "1e68;1e6a;1e6c;1e6e;1e70;1e72;1e74;1e76;1e78;1e7a;1e7c;1e7e;1e80;1e82;1e84;1e86;1e88;",
    "1e8a;1e8c;1e8e;1e90;1e92;1e94;1e9e;1ea0;1ea2;1ea4;1ea6;1ea8;1eaa;1eac;1eae;1eb0;1eb2;",
    "1eb4;1eb6;1eb8;1eba;1ebc;1ebe;1ec0;1ec2;1ec4;1ec6;1ec8;1eca;1ecc;1ece;1ed0;1ed2;1ed4;",
    "1ed6;1ed8;1eda;1edc;1ede;1ee0;1ee2;1ee4;1ee6;1ee8;1eea;1eec;1eee;1ef0;1ef2;1ef4;1ef6;",
    "1ef8;1efa;1efc;1efe;1f08,1f0f;1f18,1f1d;1f28,1f2f;1f38,1f3f;1f48,1f4d;1f59;1f5b;1f5d;",
    "1f5f;1f68,1f6f;1fb8,1fbb;1fc8,1fcb;1fd8,1fdb;1fe8,1fec;1ff8,1ffb;2102;2107;210b,210d;",
    "2110,2112;2115;2119,211d;2124;2126;2128;212a,212d;2130,2133;213e,213f;2145;2160,216f;",
    "2183;24b6,24cf;2c00,2c2f;2c60;2c62,2c64;2c67;2c69;2c6b;2c6d,2c70;2c72;2c75;2c7e,2c80;",
    "2c82;2c84;2c86;2c88;2c8a;2c8c;2c8e;2c90;2c92;2c94;2c96;2c98;2c9a;2c9c;2c9e;2ca0;2ca2;",
    "2ca4;2ca6;2ca8;2caa;2cac;2cae;2cb0;2cb2;2cb4;2cb6;2cb8;2cba;2cbc;2cbe;2cc0;2cc2;2cc4;",
    "2cc6;2cc8;2cca;2ccc;2cce;2cd0;2cd2;2cd4;2cd6;2cd8;2cda;2cdc;2cde;2ce0;2ce2;2ceb;2ced;",
    "2cf2;a640;a642;a644;a646;a648;a64a;a64c;a64e;a650;a652;a654;a656;a658;a65a;a65c;a65e;",
    "a660;a662;a664;a666;a668;a66a;a66c;a680;a682;a684;a686;a688;a68a;a68c;a68e;a690;a692;",
    "a694;a696;a698;a69a;a722;a724;a726;a728;a72a;a72c;a72e;a732;a734;a736;a738;a73a;a73c;",
    "a73e;a740;a742;a744;a746;a748;a74a;a74c;a74e;a750;a752;a754;a756;a758;a75a;a75c;a75e;",
    "a760;a762;a764;a766;a768;a76a;a76c;a76e;a779;a77b;a77d,a77e;a780;a782;a784;a786;a78b;",
    "a78d;a790;a792;a796;a798;a79a;a79c;a79e;a7a0;a7a2;a7a4;a7a6;a7a8;a7aa,a7ae;a7b0,a7b4;",
    "a7b6;a7b8;a7ba;a7bc;a7be;a7c0;a7c2;a7c4,a7c7;a7c9;a7cb,a7cc;a7ce;a7d0;a7d2;a7d4;a7d6;",
    "a7d8;a7da;a7dc;a7f5;ff21,ff3a;10400,10427;104b0,104d3;10570,1057a;1057c,1058a;",
    "1058c,10592;10594,10595;10c80,10cb2;10d50,10d65;118a0,118bf;16e40,16e5f;16ea0,16eb8;",
    "1d400,1d419;1d434,1d44d;1d468,1d481;1d49c;1d49e,1d49f;1d4a2;1d4a5,1d4a6;1d4a9,1d4ac;",
    "1d4ae,1d4b5;1d4d0,1d4e9;1d504,1d505;1d507,1d50a;1d50d,1d514;1d516,1d51c;1d538,1d539;",
    "1d53b,1d53e;1d540,1d544;1d546;1d54a,1d550;1d56c,1d585;1d5a0,1d5b9;1d5d4,1d5ed;",
    "1d608,1d621;1d63c,1d655;1d670,1d689;1d6a8,1d6c0;1d6e2,1d6fa;1d71c,1d734;1d756,1d76e;",
    "1d790,1d7a8;1d7ca;1e900,1e921;1f130,1f149;1f150,1f169;1f170,1f189;"]

/-- Word characters: alphabetic characters, marks, decimal digits, connector punctuation and the
two join controls. -/
def wordText : String :=
  String.join [
    "30,39;41,5a;5f;61,7a;aa;b5;ba;c0,d6;d8,f6;f8,2c1;2c6,2d1;2e0,2e4;2ec;2ee;300,374;",
    "376,377;37a,37d;37f;386;388,38a;38c;38e,3a1;3a3,3f5;3f7,481;483,52f;531,556;559;",
    "560,588;591,5bd;5bf;5c1,5c2;5c4,5c5;5c7;5d0,5ea;5ef,5f2;610,61a;620,669;66e,6d3;",
    "6d5,6dc;6df,6e8;6ea,6fc;6ff;710,74a;74d,7b1;7c0,7f5;7fa;7fd;800,82d;840,85b;860,86a;",
    "870,887;889,88f;897,8e1;8e3,963;966,96f;971,983;985,98c;98f,990;993,9a8;9aa,9b0;9b2;",
    "9b6,9b9;9bc,9c4;9c7,9c8;9cb,9ce;9d7;9dc,9dd;9df,9e3;9e6,9f1;9fc;9fe;a01,a03;a05,a0a;",
    "a0f,a10;a13,a28;a2a,a30;a32,a33;a35,a36;a38,a39;a3c;a3e,a42;a47,a48;a4b,a4d;a51;",
    "a59,a5c;a5e;a66,a75;a81,a83;a85,a8d;a8f,a91;a93,aa8;aaa,ab0;ab2,ab3;ab5,ab9;abc,ac5;",
    "ac7,ac9;acb,acd;ad0;ae0,ae3;ae6,aef;af9,aff;b01,b03;b05,b0c;b0f,b10;b13,b28;b2a,b30;",
    "b32,b33;b35,b39;b3c,b44;b47,b48;b4b,b4d;b55,b57;b5c,b5d;b5f,b63;b66,b6f;b71;b82,b83;",
    "b85,b8a;b8e,b90;b92,b95;b99,b9a;b9c;b9e,b9f;ba3,ba4;ba8,baa;bae,bb9;bbe,bc2;bc6,bc8;",
    "bca,bcd;bd0;bd7;be6,bef;c00,c0c;c0e,c10;c12,c28;c2a,c39;c3c,c44;c46,c48;c4a,c4d;",
    "c55,c56;c58,c5a;c5c,c5d;c60,c63;c66,c6f;c80,c83;c85,c8c;c8e,c90;c92,ca8;caa,cb3;",
    "cb5,cb9;cbc,cc4;cc6,cc8;cca,ccd;cd5,cd6;cdc,cde;ce0,ce3;ce6,cef;cf1,cf3;d00,d0c;",
    "d0e,d10;d12,d44;d46,d48;d4a,d4e;d54,d57;d5f,d63;d66,d6f;d7a,d7f;d81,d83;d85,d96;",
    "d9a,db1;db3,dbb;dbd;dc0,dc6;dca;dcf,dd4;dd6;dd8,ddf;de6,def;df2,df3;e01,e3a;e40,e4e;",
    "e50,e59;e81,e82;e84;e86,e8a;e8c,ea3;ea5;ea7,ebd;ec0,ec4;ec6;ec8,ece;ed0,ed9;edc,edf;",
    "f00;f18,f19;f20,f29;f35;f37;f39;f3e,f47;f49,f6c;f71,f84;f86,f97;f99,fbc;fc6;1000,1049;",
    "1050,109d;10a0,10c5;10c7;10cd;10d0,10fa;10fc,1248;124a,124d;1250,1256;1258;125a,125d;",
    "1260,1288;128a,128d;1290,12b0;12b2,12b5;12b8,12be;12c0;12c2,12c5;12c8,12d6;12d8,1310;",
    "1312,1315;1318,135a;135d,135f;1380,138f;13a0,13f5;13f8,13fd;1401,166c;166f,167f;",
    "1681,169a;16a0,16ea;16ee,16f8;1700,1715;171f,1734;1740,1753;1760,176c;176e,1770;",
    "1772,1773;1780,17d3;17d7;17dc,17dd;17e0,17e9;180b,180d;180f,1819;1820,1878;1880,18aa;",
    "18b0,18f5;1900,191e;1920,192b;1930,193b;1946,196d;1970,1974;1980,19ab;19b0,19c9;",
    "19d0,19d9;1a00,1a1b;1a20,1a5e;1a60,1a7c;1a7f,1a89;1a90,1a99;1aa7;1ab0,1add;1ae0,1aeb;",
    "1b00,1b4c;1b50,1b59;1b6b,1b73;1b80,1bf3;1c00,1c37;1c40,1c49;1c4d,1c7d;1c80,1c8a;",
    "1c90,1cba;1cbd,1cbf;1cd0,1cd2;1cd4,1cfa;1d00,1f15;1f18,1f1d;1f20,1f45;1f48,1f4d;",
    "1f50,1f57;1f59;1f5b;1f5d;1f5f,1f7d;1f80,1fb4;1fb6,1fbc;1fbe;1fc2,1fc4;1fc6,1fcc;",
    "1fd0,1fd3;1fd6,1fdb;1fe0,1fec;1ff2,1ff4;1ff6,1ffc;200c,200d;203f,2040;2054;2071;207f;",
    "2090,209c;20d0,20f0;2102;2107;210a,2113;2115;2119,211d;2124;2126;2128;212a,212d;",
    "212f,2139;213c,213f;2145,2149;214e;2160,2188;24b6,24e9;2c00,2ce4;2ceb,2cf3;2d00,2d25;",
    "2d27;2d2d;2d30,2d67;2d6f;2d7f,2d96;2da0,2da6;2da8,2dae;2db0,2db6;2db8,2dbe;2dc0,2dc6;",
    "2dc8,2dce;2dd0,2dd6;2dd8,2dde;2de0,2dff;2e2f;3005,3007;3021,302f;3031,3035;3038,303c;",
    "3041,3096;3099,309a;309d,309f;30a1,30fa;30fc,30ff;3105,312f;3131,318e;31a0,31bf;",
    "31f0,31ff;3400,4dbf;4e00,a48c;a4d0,a4fd;a500,a60c;a610,a62b;a640,a672;a674,a67d;",
    "a67f,a6f1;a717,a71f;a722,a788;a78b,a7dc;a7f1,a827;a82c;a840,a873;a880,a8c5;a8d0,a8d9;",
    "a8e0,a8f7;a8fb;a8fd,a92d;a930,a953;a960,a97c;a980,a9c0;a9cf,a9d9;a9e0,a9fe;aa00,aa36;",
    "aa40,aa4d;aa50,aa59;aa60,aa76;aa7a,aac2;aadb,aadd;aae0,aaef;aaf2,aaf6;ab01,ab06;",
    "ab09,ab0e;ab11,ab16;ab20,ab26;ab28,ab2e;ab30,ab5a;ab5c,ab69;ab70,abea;abec,abed;",
    "abf0,abf9;ac00,d7a3;d7b0,d7c6;d7cb,d7fb;f900,fa6d;fa70,fad9;fb00,fb06;fb13,fb17;",
    "fb1d,fb28;fb2a,fb36;fb38,fb3c;fb3e;fb40,fb41;fb43,fb44;fb46,fbb1;fbd3,fd3d;fd50,fd8f;",
    "fd92,fdc7;fdf0,fdfb;fe00,fe0f;fe20,fe2f;fe33,fe34;fe4d,fe4f;fe70,fe74;fe76,fefc;",
    "ff10,ff19;ff21,ff3a;ff3f;ff41,ff5a;ff66,ffbe;ffc2,ffc7;ffca,ffcf;ffd2,ffd7;ffda,ffdc;",
    "10000,1000b;1000d,10026;10028,1003a;1003c,1003d;1003f,1004d;10050,1005d;10080,100fa;",
    "10140,10174;101fd;10280,1029c;102a0,102d0;102e0;10300,1031f;1032d,1034a;10350,1037a;",
    "10380,1039d;103a0,103c3;103c8,103cf;103d1,103d5;10400,1049d;104a0,104a9;104b0,104d3;",
    "104d8,104fb;10500,10527;10530,10563;10570,1057a;1057c,1058a;1058c,10592;10594,10595;",
    "10597,105a1;105a3,105b1;105b3,105b9;105bb,105bc;105c0,105f3;10600,10736;10740,10755;",
    "10760,10767;10780,10785;10787,107b0;107b2,107ba;10800,10805;10808;1080a,10835;",
    "10837,10838;1083c;1083f,10855;10860,10876;10880,1089e;108e0,108f2;108f4,108f5;",
    "10900,10915;10920,10939;10940,10959;10980,109b7;109be,109bf;10a00,10a03;10a05,10a06;",
    "10a0c,10a13;10a15,10a17;10a19,10a35;10a38,10a3a;10a3f;10a60,10a7c;10a80,10a9c;",
    "10ac0,10ac7;10ac9,10ae6;10b00,10b35;10b40,10b55;10b60,10b72;10b80,10b91;10c00,10c48;",
    "10c80,10cb2;10cc0,10cf2;10d00,10d27;10d30,10d39;10d40,10d65;10d69,10d6d;10d6f,10d85;",
    "10e80,10ea9;10eab,10eac;10eb0,10eb1;10ec2,10ec7;10efa,10f1c;10f27;10f30,10f50;",
    "10f70,10f85;10fb0,10fc4;10fe0,10ff6;11000,11046;11066,11075;1107f,110ba;110c2;",
    "110d0,110e8;110f0,110f9;11100,11134;11136,1113f;11144,11147;11150,11173;11176;",
    "11180,111c4;111c9,111cc;111ce,111da;111dc;11200,11211;11213,11237;1123e,11241;",
    "11280,11286;11288;1128a,1128d;1128f,1129d;1129f,112a8;112b0,112ea;112f0,112f9;",
    "11300,11303;11305,1130c;1130f,11310;11313,11328;1132a,11330;11332,11333;11335,11339;",
    "1133b,11344;11347,11348;1134b,1134d;11350;11357;1135d,11363;11366,1136c;11370,11374;",
    "11380,11389;1138b;1138e;11390,113b5;113b7,113c0;113c2;113c5;113c7,113ca;113cc,113d3;",
    "113e1,113e2;11400,1144a;11450,11459;1145e,11461;11480,114c5;114c7;114d0,114d9;",
    "11580,115b5;115b8,115c0;115d8,115dd;11600,11640;11644;11650,11659;11680,116b8;",
    "116c0,116c9;116d0,116e3;11700,1171a;1171d,1172b;11730,11739;11740,11746;11800,1183a;",
    "118a0,118e9;118ff,11906;11909;1190c,11913;11915,11916;11918,11935;11937,11938;",
    "1193b,11943;11950,11959;119a0,119a7;119aa,119d7;119da,119e1;119e3,119e4;11a00,11a3e;",
    "11a47;11a50,11a99;11a9d;11ab0,11af8;11b60,11b67;11bc0,11be0;11bf0,11bf9;11c00,11c08;",
    "11c0a,11c36;11c38,11c40;11c50,11c59;11c72,11c8f;11c92,11ca7;11ca9,11cb6;11d00,11d06;",
    "11d08,11d09;11d0b,11d36;11d3a;11d3c,11d3d;11d3f,11d47;11d50,11d59;11d60,11d65;",
    "11d67,11d68;11d6a,11d8e;11d90,11d91;11d93,11d98;11da0,11da9;11db0,11ddb;11de0,11de9;",
    "11ee0,11ef6;11f00,11f10;11f12,11f3a;11f3e,11f42;11f50,11f5a;11fb0;12000,12399;",
    "12400,1246e;12480,12543;12f90,12ff0;13000,1342f;13440,13455;13460,143fa;14400,14646;",
    "16100,16139;16800,16a38;16a40,16a5e;16a60,16a69;16a70,16abe;16ac0,16ac9;16ad0,16aed;",
    "16af0,16af4;16b00,16b36;16b40,16b43;16b50,16b59;16b63,16b77;16b7d,16b8f;16d40,16d6c;",
    "16d70,16d79;16e40,16e7f;16ea0,16eb8;16ebb,16ed3;16f00,16f4a;16f4f,16f87;16f8f,16f9f;",
    "16fe0,16fe1;16fe3,16fe4;16ff0,16ff6;17000,18cd5;18cff,18d1e;18d80,18df2;1aff0,1aff3;",
    "1aff5,1affb;1affd,1affe;1b000,1b122;1b132;1b150,1b152;1b155;1b164,1b167;1b170,1b2fb;",
    "1bc00,1bc6a;1bc70,1bc7c;1bc80,1bc88;1bc90,1bc99;1bc9d,1bc9e;1ccf0,1ccf9;1cf00,1cf2d;",
    "1cf30,1cf46;1d165,1d169;1d16d,1d172;1d17b,1d182;1d185,1d18b;1d1aa,1d1ad;1d242,1d244;",
    "1d400,1d454;1d456,1d49c;1d49e,1d49f;1d4a2;1d4a5,1d4a6;1d4a9,1d4ac;1d4ae,1d4b9;1d4bb;",
    "1d4bd,1d4c3;1d4c5,1d505;1d507,1d50a;1d50d,1d514;1d516,1d51c;1d51e,1d539;1d53b,1d53e;",
    "1d540,1d544;1d546;1d54a,1d550;1d552,1d6a5;1d6a8,1d6c0;1d6c2,1d6da;1d6dc,1d6fa;",
    "1d6fc,1d714;1d716,1d734;1d736,1d74e;1d750,1d76e;1d770,1d788;1d78a,1d7a8;1d7aa,1d7c2;",
    "1d7c4,1d7cb;1d7ce,1d7ff;1da00,1da36;1da3b,1da6c;1da75;1da84;1da9b,1da9f;1daa1,1daaf;",
    "1df00,1df1e;1df25,1df2a;1e000,1e006;1e008,1e018;1e01b,1e021;1e023,1e024;1e026,1e02a;",
    "1e030,1e06d;1e08f;1e100,1e12c;1e130,1e13d;1e140,1e149;1e14e;1e290,1e2ae;1e2c0,1e2f9;",
    "1e4d0,1e4f9;1e5d0,1e5fa;1e6c0,1e6de;1e6e0,1e6f5;1e6fe,1e6ff;1e7e0,1e7e6;1e7e8,1e7eb;",
    "1e7ed,1e7ee;1e7f0,1e7fe;1e800,1e8c4;1e8d0,1e8d6;1e900,1e94b;1e950,1e959;1ee00,1ee03;",
    "1ee05,1ee1f;1ee21,1ee22;1ee24;1ee27;1ee29,1ee32;1ee34,1ee37;1ee39;1ee3b;1ee42;1ee47;",
    "1ee49;1ee4b;1ee4d,1ee4f;1ee51,1ee52;1ee54;1ee57;1ee59;1ee5b;1ee5d;1ee5f;1ee61,1ee62;",
    "1ee64;1ee67,1ee6a;1ee6c,1ee72;1ee74,1ee77;1ee79,1ee7c;1ee7e;1ee80,1ee89;1ee8b,1ee9b;",
    "1eea1,1eea3;1eea5,1eea9;1eeab,1eebb;1f130,1f149;1f150,1f169;1f170,1f189;1fbf0,1fbf9;",
    "20000,2a6df;2a700,2b81d;2b820,2cead;2ceb0,2ebe0;2ebf0,2ee5d;2f800,2fa1d;30000,3134a;",
    "31350,33479;e0100,e01ef;"]

/-- Characters with the Case_Ignorable property. -/
def caseIgnorableText : String :=
  String.join [
    "27;2e;3a;5e;60;a8;ad;af;b4;b7,b8;2b0,36f;374,375;37a;384,385;387;483,489;559;55f;",
    "591,5bd;5bf;5c1,5c2;5c4,5c5;5c7;5f4;600,605;610,61a;61c;640;64b,65f;670;6d6,6dd;",
    "6df,6e8;6ea,6ed;70f;711;730,74a;7a6,7b0;7eb,7f5;7fa;7fd;816,82d;859,85b;888;890,891;",
    "897,89f;8c9,902;93a;93c;941,948;94d;951,957;962,963;971;981;9bc;9c1,9c4;9cd;9e2,9e3;",
    "9fe;a01,a02;a3c;a41,a42;a47,a48;a4b,a4d;a51;a70,a71;a75;a81,a82;abc;ac1,ac5;ac7,ac8;",
    "acd;ae2,ae3;afa,aff;b01;b3c;b3f;b41,b44;b4d;b55,b56;b62,b63;b82;bc0;bcd;c00;c04;c3c;",
    "c3e,c40;c46,c48;c4a,c4d;c55,c56;c62,c63;c81;cbc;cbf;cc6;ccc,ccd;ce2,ce3;d00,d01;",
    "d3b,d3c;d41,d44;d4d;d62,d63;d81;dca;dd2,dd4;dd6;e31;e34,e3a;e46,e4e;eb1;eb4,ebc;ec6;",
    "ec8,ece;f18,f19;f35;f37;f39;f71,f7e;f80,f84;f86,f87;f8d,f97;f99,fbc;fc6;102d,1030;",
    "1032,1037;1039,103a;103d,103e;1058,1059;105e,1060;1071,1074;1082;1085,1086;108d;109d;",
    "10fc;135d,135f;1712,1714;1732,1733;1752,1753;1772,1773;17b4,17b5;17b7,17bd;17c6;",
    "17c9,17d3;17d7;17dd;180b,180f;1843;1885,1886;18a9;1920,1922;1927,1928;1932;1939,193b;",
    "1a17,1a18;1a1b;1a56;1a58,1a5e;1a60;1a62;1a65,1a6c;1a73,1a7c;1a7f;1aa7;1ab0,1add;",
    "1ae0,1aeb;1b00,1b03;1b34;1b36,1b3a;1b3c;1b42;1b6b,1b73;1b80,1b81;1ba2,1ba5;1ba8,1ba9;",
    "1bab,1bad;1be6;1be8,1be9;1bed;1bef,1bf1;1c2c,1c33;1c36,1c37;1c78,1c7d;1cd0,1cd2;",
    "1cd4,1ce0;1ce2,1ce8;1ced;1cf4;1cf8,1cf9;1d2c,1d6a;1d78;1d9b,1dff;1fbd;1fbf,1fc1;",
    "1fcd,1fcf;1fdd,1fdf;1fed,1fef;1ffd,1ffe;200b,200f;2018,2019;2024;2027;202a,202e;",
    "2060,2064;2066,206f;2071;207f;2090,209c;20d0,20f0;2c7c,2c7d;2cef,2cf1;2d6f;2d7f;",
    "2de0,2dff;2e2f;3005;302a,302d;3031,3035;303b;3099,309e;30fc,30fe;a015;a4f8,a4fd;a60c;",
    "a66f,a672;a674,a67d;a67f;a69c,a69f;a6f0,a6f1;a700,a721;a770;a788,a78a;a7f1,a7f4;",
    "a7f8,a7f9;a802;a806;a80b;a825,a826;a82c;a8c4,a8c5;a8e0,a8f1;a8ff;a926,a92d;a947,a951;",
    "a980,a982;a9b3;a9b6,a9b9;a9bc,a9bd;a9cf;a9e5,a9e6;aa29,aa2e;aa31,aa32;aa35,aa36;aa43;",
    "aa4c;aa70;aa7c;aab0;aab2,aab4;aab7,aab8;aabe,aabf;aac1;aadd;aaec,aaed;aaf3,aaf4;aaf6;",
    "ab5b,ab5f;ab69,ab6b;abe5;abe8;abed;fb1e;fbb2,fbc2;fe00,fe0f;fe13;fe20,fe2f;fe52;fe55;",
    "feff;ff07;ff0e;ff1a;ff3e;ff40;ff70;ff9e,ff9f;ffe3;fff9,fffb;101fd;102e0;10376,1037a;",
    "10780,10785;10787,107b0;107b2,107ba;10a01,10a03;10a05,10a06;10a0c,10a0f;10a38,10a3a;",
    "10a3f;10ae5,10ae6;10d24,10d27;10d4e;10d69,10d6d;10d6f;10eab,10eac;10ec5;10efa,10eff;",
    "10f46,10f50;10f82,10f85;11001;11038,11046;11070;11073,11074;1107f,11081;110b3,110b6;",
    "110b9,110ba;110bd;110c2;110cd;11100,11102;11127,1112b;1112d,11134;11173;11180,11181;",
    "111b6,111be;111c9,111cc;111cf;1122f,11231;11234;11236,11237;1123e;11241;112df;",
    "112e3,112ea;11300,11301;1133b,1133c;11340;11366,1136c;11370,11374;113bb,113c0;113ce;",
    "113d0;113d2;113e1,113e2;11438,1143f;11442,11444;11446;1145e;114b3,114b8;114ba;",
    "114bf,114c0;114c2,114c3;115b2,115b5;115bc,115bd;115bf,115c0;115dc,115dd;11633,1163a;",
    "1163d;1163f,11640;116ab;116ad;116b0,116b5;116b7;1171d;1171f;11722,11725;11727,1172b;",
    "1182f,11837;11839,1183a;1193b,1193c;1193e;11943;119d4,119d7;119da,119db;119e0;",
    "11a01,11a0a;11a33,11a38;11a3b,11a3e;11a47;11a51,11a56;11a59,11a5b;11a8a,11a96;",
    "11a98,11a99;11b60;11b62,11b64;11b66;11c30,11c36;11c38,11c3d;11c3f;11c92,11ca7;",
    "11caa,11cb0;11cb2,11cb3;11cb5,11cb6;11d31,11d36;11d3a;11d3c,11d3d;11d3f,11d45;11d47;",
    "11d90,11d91;11d95;11d97;11dd9;11ef3,11ef4;11f00,11f01;11f36,11f3a;11f40;11f42;11f5a;",
    "13430,13440;13447,13455;1611e,16129;1612d,1612f;16af0,16af4;16b30,16b36;16b40,16b43;",
    "16d40,16d42;16d6b,16d6c;16f4f;16f8f,16f9f;16fe0,16fe1;16fe3,16fe4;16ff2,16ff3;",
    "1aff0,1aff3;1aff5,1affb;1affd,1affe;1bc9d,1bc9e;1bca0,1bca3;1cf00,1cf2d;1cf30,1cf46;",
    "1d167,1d169;1d173,1d182;1d185,1d18b;1d1aa,1d1ad;1d242,1d244;1da00,1da36;1da3b,1da6c;",
    "1da75;1da84;1da9b,1da9f;1daa1,1daaf;1e000,1e006;1e008,1e018;1e01b,1e021;1e023,1e024;",
    "1e026,1e02a;1e030,1e06d;1e08f;1e130,1e13d;1e2ae;1e2ec,1e2ef;1e4eb,1e4ef;1e5ee,1e5ef;",
    "1e6e3;1e6e6;1e6ee,1e6ef;1e6f5;1e6ff;1e8d0,1e8d6;1e944,1e94b;1f3fb,1f3ff;e0001;",
    "e0020,e007f;e0100,e01ef;"]

/-- Characters with the Cased property. -/
def casedText : String :=
  String.join [
    "41,5a;61,7a;aa;b5;ba;c0,d6;d8,f6;f8,1ba;1bc,1bf;1c4,293;296,2b8;2c0,2c1;2e0,2e4;345;",
    "370,373;376,377;37a,37d;37f;386;388,38a;38c;38e,3a1;3a3,3f5;3f7,481;48a,52f;531,556;",
    "560,588;10a0,10c5;10c7;10cd;10d0,10fa;10fc,10ff;13a0,13f5;13f8,13fd;1c80,1c8a;",
    "1c90,1cba;1cbd,1cbf;1d00,1dbf;1e00,1f15;1f18,1f1d;1f20,1f45;1f48,1f4d;1f50,1f57;1f59;",
    "1f5b;1f5d;1f5f,1f7d;1f80,1fb4;1fb6,1fbc;1fbe;1fc2,1fc4;1fc6,1fcc;1fd0,1fd3;1fd6,1fdb;",
    "1fe0,1fec;1ff2,1ff4;1ff6,1ffc;2071;207f;2090,209c;2102;2107;210a,2113;2115;2119,211d;",
    "2124;2126;2128;212a,212d;212f,2134;2139;213c,213f;2145,2149;214e;2160,217f;2183,2184;",
    "24b6,24e9;2c00,2ce4;2ceb,2cee;2cf2,2cf3;2d00,2d25;2d27;2d2d;a640,a66d;a680,a69d;",
    "a722,a787;a78b,a78e;a790,a7dc;a7f1,a7f6;a7f8,a7fa;ab30,ab5a;ab5c,ab69;ab70,abbf;",
    "fb00,fb06;fb13,fb17;ff21,ff3a;ff41,ff5a;10400,1044f;104b0,104d3;104d8,104fb;",
    "10570,1057a;1057c,1058a;1058c,10592;10594,10595;10597,105a1;105a3,105b1;105b3,105b9;",
    "105bb,105bc;10780;10783,10785;10787,107b0;107b2,107ba;10c80,10cb2;10cc0,10cf2;",
    "10d50,10d65;10d70,10d85;118a0,118df;16e40,16e7f;16ea0,16eb8;16ebb,16ed3;1d400,1d454;",
    "1d456,1d49c;1d49e,1d49f;1d4a2;1d4a5,1d4a6;1d4a9,1d4ac;1d4ae,1d4b9;1d4bb;1d4bd,1d4c3;",
    "1d4c5,1d505;1d507,1d50a;1d50d,1d514;1d516,1d51c;1d51e,1d539;1d53b,1d53e;1d540,1d544;",
    "1d546;1d54a,1d550;1d552,1d6a5;1d6a8,1d6c0;1d6c2,1d6da;1d6dc,1d6fa;1d6fc,1d714;",
    "1d716,1d734;1d736,1d74e;1d750,1d76e;1d770,1d788;1d78a,1d7a8;1d7aa,1d7c2;1d7c4,1d7cb;",
    "1df00,1df09;1df0b,1df1e;1df25,1df2a;1e030,1e06d;1e900,1e943;1f130,1f149;1f150,1f169;",
    "1f170,1f189;"]

/-- Full uppercase mappings of the characters that change, as `code:mapped,…;`. -/
def upperMapText : String :=
  String.join [
    "61:41;62:42;63:43;64:44;65:45;66:46;67:47;68:48;69:49;6a:4a;6b:4b;6c:4c;6d:4d;6e:4e;",
    "6f:4f;70:50;71:51;72:52;73:53;74:54;75:55;76:56;77:57;78:58;79:59;7a:5a;b5:39c;",
    "df:53,53;e0:c0;e1:c1;e2:c2;e3:c3;e4:c4;e5:c5;e6:c6;e7:c7;e8:c8;e9:c9;ea:ca;eb:cb;",
    "ec:cc;ed:cd;ee:ce;ef:cf;f0:d0;f1:d1;f2:d2;f3:d3;f4:d4;f5:d5;f6:d6;f8:d8;f9:d9;fa:da;",
    "fb:db;fc:dc;fd:dd;fe:de;ff:178;101:100;103:102;105:104;107:106;109:108;10b:10a;",
    "10d:10c;10f:10e;111:110;113:112;115:114;117:116;119:118;11b:11a;11d:11c;11f:11e;",
    "121:120;123:122;125:124;127:126;129:128;12b:12a;12d:12c;12f:12e;131:49;133:132;",
    "135:134;137:136;13a:139;13c:13b;13e:13d;140:13f;142:141;144:143;146:145;148:147;",
    "149:2bc,4e;14b:14a;14d:14c;14f:14e;151:150;153:152;155:154;157:156;159:158;15b:15a;",
    "15d:15c;15f:15e;161:160;163:162;165:164;167:166;169:168;16b:16a;16d:16c;16f:16e;",
    "171:170;173:172;175:174;177:176;17a:179;17c:17b;17e:17d;17f:53;180:243;183:182;",
    "185:184;188:187;18c:18b;192:191;195:1f6;199:198;19a:23d;19b:a7dc;19e:220;1a1:1a0;",
    "1a3:1a2;1a5:1a4;1a8:1a7;1ad:1ac;1b0:1af;1b4:1b3;1b6:1b5;1b9:1b8;1bd:1bc;1bf:1f7;",
    "1c5:1c4;1c6:1c4;1c8:1c7;1c9:1c7;1cb:1ca;1cc:1ca;1ce:1cd;1d0:1cf;1d2:1d1;1d4:1d3;",
    "1d6:1d5;1d8:1d7;1da:1d9;1dc:1db;1dd:18e;1df:1de;1e1:1e0;1e3:1e2;1e5:1e4;1e7:1e6;",
    "1e9:1e8;1eb:1ea;1ed:1ec;1ef:1ee;1f0:4a,30c;1f2:1f1;1f3:1f1;1f5:1f4;1f9:1f8;1fb:1fa;",
    "1fd:1fc;1ff:1fe;201:200;203:202;205:204;207:206;209:208;20b:20a;20d:20c;20f:20e;",
    "211:210;213:212;215:214;217:216;219:218;21b:21a;21d:21c;21f:21e;223:222;225:224;",
    "227:226;229:228;22b:22a;22d:22c;22f:22e;231:230;233:232;23c:23b;23f:2c7e;240:2c7f;",
    "242:241;247:246;249:248;24b:24a;24d:24c;24f:24e;250:2c6f;251:2c6d;252:2c70;253:181;",
    "254:186;256:189;257:18a;259:18f;25b:190;25c:a7ab;260:193;261:a7ac;263:194;264:a7cb;",
    "265:a78d;266:a7aa;268:197;269:196;26a:a7ae;26b:2c62;26c:a7ad;26f:19c;271:2c6e;272:19d;",
    "275:19f;27d:2c64;280:1a6;282:a7c5;283:1a9;287:a7b1;288:1ae;289:244;28a:1b1;28b:1b2;",
    "28c:245;292:1b7;29d:a7b2;29e:a7b0;345:399;371:370;373:372;377:376;37b:3fd;37c:3fe;",
    "37d:3ff;390:399,308,301;3ac:386;3ad:388;3ae:389;3af:38a;3b0:3a5,308,301;3b1:391;",
    "3b2:392;3b3:393;3b4:394;3b5:395;3b6:396;3b7:397;3b8:398;3b9:399;3ba:39a;3bb:39b;",
    "3bc:39c;3bd:39d;3be:39e;3bf:39f;3c0:3a0;3c1:3a1;3c2:3a3;3c3:3a3;3c4:3a4;3c5:3a5;",
    "3c6:3a6;3c7:3a7;3c8:3a8;3c9:3a9;3ca:3aa;3cb:3ab;3cc:38c;3cd:38e;3ce:38f;3d0:392;",
    "3d1:398;3d5:3a6;3d6:3a0;3d7:3cf;3d9:3d8;3db:3da;3dd:3dc;3df:3de;3e1:3e0;3e3:3e2;",
    "3e5:3e4;3e7:3e6;3e9:3e8;3eb:3ea;3ed:3ec;3ef:3ee;3f0:39a;3f1:3a1;3f2:3f9;3f3:37f;",
    "3f5:395;3f8:3f7;3fb:3fa;430:410;431:411;432:412;433:413;434:414;435:415;436:416;",
    "437:417;438:418;439:419;43a:41a;43b:41b;43c:41c;43d:41d;43e:41e;43f:41f;440:420;",
    "441:421;442:422;443:423;444:424;445:425;446:426;447:427;448:428;449:429;44a:42a;",
    "44b:42b;44c:42c;44d:42d;44e:42e;44f:42f;450:400;451:401;452:402;453:403;454:404;",
    "455:405;456:406;457:407;458:408;459:409;45a:40a;45b:40b;45c:40c;45d:40d;45e:40e;",
    "45f:40f;461:460;463:462;465:464;467:466;469:468;46b:46a;46d:46c;46f:46e;471:470;",
    "473:472;475:474;477:476;479:478;47b:47a;47d:47c;47f:47e;481:480;48b:48a;48d:48c;",
    "48f:48e;491:490;493:492;495:494;497:496;499:498;49b:49a;49d:49c;49f:49e;4a1:4a0;",
    "4a3:4a2;4a5:4a4;4a7:4a6;4a9:4a8;4ab:4aa;4ad:4ac;4af:4ae;4b1:4b0;4b3:4b2;4b5:4b4;",
    "4b7:4b6;4b9:4b8;4bb:4ba;4bd:4bc;4bf:4be;4c2:4c1;4c4:4c3;4c6:4c5;4c8:4c7;4ca:4c9;",
    "4cc:4cb;4ce:4cd;4cf:4c0;4d1:4d0;4d3:4d2;4d5:4d4;4d7:4d6;4d9:4d8;4db:4da;4dd:4dc;",
    "4df:4de;4e1:4e0;4e3:4e2;4e5:4e4;4e7:4e6;4e9:4e8;4eb:4ea;4ed:4ec;4ef:4ee;4f1:4f0;",
    "4f3:4f2;4f5:4f4;4f7:4f6;4f9:4f8;4fb:4fa;4fd:4fc;4ff:4fe;501:500;503:502;505:504;",
    "507:506;509:508;50b:50a;50d:50c;50f:50e;511:510;513:512;515:514;517:516;519:518;",
    "51b:51a;51d:51c;51f:51e;521:520;523:522;525:524;527:526;529:528;52b:52a;52d:52c;",
    "52f:52e;561:531;562:532;563:533;564:534;565:535;566:536;567:537;568:538;569:539;",
    "56a:53a;56b:53b;56c:53c;56d:53d;56e:53e;56f:53f;570:540;571:541;572:542;573:543;",
    "574:544;575:545;576:546;577:547;578:548;579:549;57a:54a;57b:54b;57c:54c;57d:54d;",
    "57e:54e;57f:54f;580:550;581:551;582:552;583:553;584:554;585:555;586:556;587:535,552;",
    "10d0:1c90;10d1:1c91;10d2:1c92;10d3:1c93;10d4:1c94;10d5:1c95;10d6:1c96;10d7:1c97;",
    "10d8:1c98;10d9:1c99;10da:1c9a;10db:1c9b;10dc:1c9c;10dd:1c9d;10de:1c9e;10df:1c9f;",
    "10e0:1ca0;10e1:1ca1;10e2:1ca2;10e3:1ca3;10e4:1ca4;10e5:1ca5;10e6:1ca6;10e7:1ca7;",
    "10e8:1ca8;10e9:1ca9;10ea:1caa;10eb:1cab;10ec:1cac;10ed:1cad;10ee:1cae;10ef:1caf;",
    "10f0:1cb0;10f1:1cb1;10f2:1cb2;10f3:1cb3;10f4:1cb4;10f5:1cb5;10f6:1cb6;10f7:1cb7;",
    "10f8:1cb8;10f9:1cb9;10fa:1cba;10fd:1cbd;10fe:1cbe;10ff:1cbf;13f8:13f0;13f9:13f1;",
    "13fa:13f2;13fb:13f3;13fc:13f4;13fd:13f5;1c80:412;1c81:414;1c82:41e;1c83:421;1c84:422;",
    "1c85:422;1c86:42a;1c87:462;1c88:a64a;1c8a:1c89;1d79:a77d;1d7d:2c63;1d8e:a7c6;",
    "1e01:1e00;1e03:1e02;1e05:1e04;1e07:1e06;1e09:1e08;1e0b:1e0a;1e0d:1e0c;1e0f:1e0e;",
    "1e11:1e10;1e13:1e12;1e15:1e14;1e17:1e16;1e19:1e18;1e1b:1e1a;1e1d:1e1c;1e1f:1e1e;",
    "1e21:1e20;1e23:1e22;1e25:1e24;1e27:1e26;1e29:1e28;1e2b:1e2a;1e2d:1e2c;1e2f:1e2e;",
    "1e31:1e30;1e33:1e32;1e35:1e34;1e37:1e36;1e39:1e38;1e3b:1e3a;1e3d:1e3c;1e3f:1e3e;",
    "1e41:1e40;1e43:1e42;1e45:1e44;1e47:1e46;1e49:1e48;1e4b:1e4a;1e4d:1e4c;1e4f:1e4e;",
    "1e51:1e50;1e53:1e52;1e55:1e54;1e57:1e56;1e59:1e58;1e5b:1e5a;1e5d:1e5c;1e5f:1e5e;",
    "1e61:1e60;1e63:1e62;1e65:1e64;1e67:1e66;1e69:1e68;1e6b:1e6a;1e6d:1e6c;1e6f:1e6e;",
    "1e71:1e70;1e73:1e72;1e75:1e74;1e77:1e76;1e79:1e78;1e7b:1e7a;1e7d:1e7c;1e7f:1e7e;",
    "1e81:1e80;1e83:1e82;1e85:1e84;1e87:1e86;1e89:1e88;1e8b:1e8a;1e8d:1e8c;1e8f:1e8e;",
    "1e91:1e90;1e93:1e92;1e95:1e94;1e96:48,331;1e97:54,308;1e98:57,30a;1e99:59,30a;",
    "1e9a:41,2be;1e9b:1e60;1ea1:1ea0;1ea3:1ea2;1ea5:1ea4;1ea7:1ea6;1ea9:1ea8;1eab:1eaa;",
    "1ead:1eac;1eaf:1eae;1eb1:1eb0;1eb3:1eb2;1eb5:1eb4;1eb7:1eb6;1eb9:1eb8;1ebb:1eba;",
    "1ebd:1ebc;1ebf:1ebe;1ec1:1ec0;1ec3:1ec2;1ec5:1ec4;1ec7:1ec6;1ec9:1ec8;1ecb:1eca;",
    "1ecd:1ecc;1ecf:1ece;1ed1:1ed0;1ed3:1ed2;1ed5:1ed4;1ed7:1ed6;1ed9:1ed8;1edb:1eda;",
    "1edd:1edc;1edf:1ede;1ee1:1ee0;1ee3:1ee2;1ee5:1ee4;1ee7:1ee6;1ee9:1ee8;1eeb:1eea;",
    "1eed:1eec;1eef:1eee;1ef1:1ef0;1ef3:1ef2;1ef5:1ef4;1ef7:1ef6;1ef9:1ef8;1efb:1efa;",
    "1efd:1efc;1eff:1efe;1f00:1f08;1f01:1f09;1f02:1f0a;1f03:1f0b;1f04:1f0c;1f05:1f0d;",
    "1f06:1f0e;1f07:1f0f;1f10:1f18;1f11:1f19;1f12:1f1a;1f13:1f1b;1f14:1f1c;1f15:1f1d;",
    "1f20:1f28;1f21:1f29;1f22:1f2a;1f23:1f2b;1f24:1f2c;1f25:1f2d;1f26:1f2e;1f27:1f2f;",
    "1f30:1f38;1f31:1f39;1f32:1f3a;1f33:1f3b;1f34:1f3c;1f35:1f3d;1f36:1f3e;1f37:1f3f;",
    "1f40:1f48;1f41:1f49;1f42:1f4a;1f43:1f4b;1f44:1f4c;1f45:1f4d;1f50:3a5,313;1f51:1f59;",
    "1f52:3a5,313,300;1f53:1f5b;1f54:3a5,313,301;1f55:1f5d;1f56:3a5,313,342;1f57:1f5f;",
    "1f60:1f68;1f61:1f69;1f62:1f6a;1f63:1f6b;1f64:1f6c;1f65:1f6d;1f66:1f6e;1f67:1f6f;",
    "1f70:1fba;1f71:1fbb;1f72:1fc8;1f73:1fc9;1f74:1fca;1f75:1fcb;1f76:1fda;1f77:1fdb;",
    "1f78:1ff8;1f79:1ff9;1f7a:1fea;1f7b:1feb;1f7c:1ffa;1f7d:1ffb;1f80:1f08,399;",
    "1f81:1f09,399;1f82:1f0a,399;1f83:1f0b,399;1f84:1f0c,399;1f85:1f0d,399;1f86:1f0e,399;",
    "1f87:1f0f,399;1f88:1f08,399;1f89:1f09,399;1f8a:1f0a,399;1f8b:1f0b,399;1f8c:1f0c,399;",
    "1f8d:1f0d,399;1f8e:1f0e,399;1f8f:1f0f,399;1f90:1f28,399;1f91:1f29,399;1f92:1f2a,399;",
    "1f93:1f2b,399;1f94:1f2c,399;1f95:1f2d,399;1f96:1f2e,399;1f97:1f2f,399;1f98:1f28,399;",
    "1f99:1f29,399;1f9a:1f2a,399;1f9b:1f2b,399;1f9c:1f2c,399;1f9d:1f2d,399;1f9e:1f2e,399;",
    "1f9f:1f2f,399;1fa0:1f68,399;1fa1:1f69,399;1fa2:1f6a,399;1fa3:1f6b,399;1fa4:1f6c,399;",
    "1fa5:1f6d,399;1fa6:1f6e,399;1fa7:1f6f,399;1fa8:1f68,399;1fa9:1f69,399;1faa:1f6a,399;",
    "1fab:1f6b,399;1fac:1f6c,399;1fad:1f6d,399;1fae:1f6e,399;1faf:1f6f,399;1fb0:1fb8;",
    "1fb1:1fb9;1fb2:1fba,399;1fb3:391,399;1fb4:386,399;1fb6:391,342;1fb7:391,342,399;",
    "1fbc:391,399;1fbe:399;1fc2:1fca,399;1fc3:397,399;1fc4:389,399;1fc6:397,342;",
    "1fc7:397,342,399;1fcc:397,399;1fd0:1fd8;1fd1:1fd9;1fd2:399,308,300;1fd3:399,308,301;",
    "1fd6:399,342;1fd7:399,308,342;1fe0:1fe8;1fe1:1fe9;1fe2:3a5,308,300;1fe3:3a5,308,301;",
    "1fe4:3a1,313;1fe5:1fec;1fe6:3a5,342;1fe7:3a5,308,342;1ff2:1ffa,399;1ff3:3a9,399;",
    "1ff4:38f,399;1ff6:3a9,342;1ff7:3a9,342,399;1ffc:3a9,399;214e:2132;2170:2160;2171:2161;",
    "2172:2162;2173:2163;2174:2164;2175:2165;2176:2166;2177:2167;2178:2168;2179:2169;",
    "217a:216a;217b:216b;217c:216c;217d:216d;217e:216e;217f:216f;2184:2183;24d0:24b6;",
    "24d1:24b7;24d2:24b8;24d3:24b9;24d4:24ba;24d5:24bb;24d6:24bc;24d7:24bd;24d8:24be;",
    "24d9:24bf;24da:24c0;24db:24c1;24dc:24c2;24dd:24c3;24de:24c4;24df:24c5;24e0:24c6;",
    "24e1:24c7;24e2:24c8;24e3:24c9;24e4:24ca;24e5:24cb;24e6:24cc;24e7:24cd;24e8:24ce;",
    "24e9:24cf;2c30:2c00;2c31:2c01;2c32:2c02;2c33:2c03;2c34:2c04;2c35:2c05;2c36:2c06;",
    "2c37:2c07;2c38:2c08;2c39:2c09;2c3a:2c0a;2c3b:2c0b;2c3c:2c0c;2c3d:2c0d;2c3e:2c0e;",
    "2c3f:2c0f;2c40:2c10;2c41:2c11;2c42:2c12;2c43:2c13;2c44:2c14;2c45:2c15;2c46:2c16;",
    "2c47:2c17;2c48:2c18;2c49:2c19;2c4a:2c1a;2c4b:2c1b;2c4c:2c1c;2c4d:2c1d;2c4e:2c1e;",
    "2c4f:2c1f;2c50:2c20;2c51:2c21;2c52:2c22;2c53:2c23;2c54:2c24;2c55:2c25;2c56:2c26;",
    "2c57:2c27;2c58:2c28;2c59:2c29;2c5a:2c2a;2c5b:2c2b;2c5c:2c2c;2c5d:2c2d;2c5e:2c2e;",
    "2c5f:2c2f;2c61:2c60;2c65:23a;2c66:23e;2c68:2c67;2c6a:2c69;2c6c:2c6b;2c73:2c72;",
    "2c76:2c75;2c81:2c80;2c83:2c82;2c85:2c84;2c87:2c86;2c89:2c88;2c8b:2c8a;2c8d:2c8c;",
    "2c8f:2c8e;2c91:2c90;2c93:2c92;2c95:2c94;2c97:2c96;2c99:2c98;2c9b:2c9a;2c9d:2c9c;",
    "2c9f:2c9e;2ca1:2ca0;2ca3:2ca2;2ca5:2ca4;2ca7:2ca6;2ca9:2ca8;2cab:2caa;2cad:2cac;",
    "2caf:2cae;2cb1:2cb0;2cb3:2cb2;2cb5:2cb4;2cb7:2cb6;2cb9:2cb8;2cbb:2cba;2cbd:2cbc;",
    "2cbf:2cbe;2cc1:2cc0;2cc3:2cc2;2cc5:2cc4;2cc7:2cc6;2cc9:2cc8;2ccb:2cca;2ccd:2ccc;",
    "2ccf:2cce;2cd1:2cd0;2cd3:2cd2;2cd5:2cd4;2cd7:2cd6;2cd9:2cd8;2cdb:2cda;2cdd:2cdc;",
    "2cdf:2cde;2ce1:2ce0;2ce3:2ce2;2cec:2ceb;2cee:2ced;2cf3:2cf2;2d00:10a0;2d01:10a1;",
    "2d02:10a2;2d03:10a3;2d04:10a4;2d05:10a5;2d06:10a6;2d07:10a7;2d08:10a8;2d09:10a9;",
    "2d0a:10aa;2d0b:10ab;2d0c:10ac;2d0d:10ad;2d0e:10ae;2d0f:10af;2d10:10b0;2d11:10b1;",
    "2d12:10b2;2d13:10b3;2d14:10b4;2d15:10b5;2d16:10b6;2d17:10b7;2d18:10b8;2d19:10b9;",
    "2d1a:10ba;2d1b:10bb;2d1c:10bc;2d1d:10bd;2d1e:10be;2d1f:10bf;2d20:10c0;2d21:10c1;",
    "2d22:10c2;2d23:10c3;2d24:10c4;2d25:10c5;2d27:10c7;2d2d:10cd;a641:a640;a643:a642;",
    "a645:a644;a647:a646;a649:a648;a64b:a64a;a64d:a64c;a64f:a64e;a651:a650;a653:a652;",
    "a655:a654;a657:a656;a659:a658;a65b:a65a;a65d:a65c;a65f:a65e;a661:a660;a663:a662;",
    "a665:a664;a667:a666;a669:a668;a66b:a66a;a66d:a66c;a681:a680;a683:a682;a685:a684;",
    "a687:a686;a689:a688;a68b:a68a;a68d:a68c;a68f:a68e;a691:a690;a693:a692;a695:a694;",
    "a697:a696;a699:a698;a69b:a69a;a723:a722;a725:a724;a727:a726;a729:a728;a72b:a72a;",
    "a72d:a72c;a72f:a72e;a733:a732;a735:a734;a737:a736;a739:a738;a73b:a73a;a73d:a73c;",
    "a73f:a73e;a741:a740;a743:a742;a745:a744;a747:a746;a749:a748;a74b:a74a;a74d:a74c;",
    "a74f:a74e;a751:a750;a753:a752;a755:a754;a757:a756;a759:a758;a75b:a75a;a75d:a75c;",
    "a75f:a75e;a761:a760;a763:a762;a765:a764;a767:a766;a769:a768;a76b:a76a;a76d:a76c;",
    "a76f:a76e;a77a:a779;a77c:a77b;a77f:a77e;a781:a780;a783:a782;a785:a784;a787:a786;",
    "a78c:a78b;a791:a790;a793:a792;a794:a7c4;a797:a796;a799:a798;a79b:a79a;a79d:a79c;",
    "a79f:a79e;a7a1:a7a0;a7a3:a7a2;a7a5:a7a4;a7a7:a7a6;a7a9:a7a8;a7b5:a7b4;a7b7:a7b6;",
    "a7b9:a7b8;a7bb:a7ba;a7bd:a7bc;a7bf:a7be;a7c1:a7c0;a7c3:a7c2;a7c8:a7c7;a7ca:a7c9;",
    "a7cd:a7cc;a7cf:a7ce;a7d1:a7d0;a7d3:a7d2;a7d5:a7d4;a7d7:a7d6;a7d9:a7d8;a7db:a7da;",
    "a7f6:a7f5;ab53:a7b3;ab70:13a0;ab71:13a1;ab72:13a2;ab73:13a3;ab74:13a4;ab75:13a5;",
    "ab76:13a6;ab77:13a7;ab78:13a8;ab79:13a9;ab7a:13aa;ab7b:13ab;ab7c:13ac;ab7d:13ad;",
    "ab7e:13ae;ab7f:13af;ab80:13b0;ab81:13b1;ab82:13b2;ab83:13b3;ab84:13b4;ab85:13b5;",
    "ab86:13b6;ab87:13b7;ab88:13b8;ab89:13b9;ab8a:13ba;ab8b:13bb;ab8c:13bc;ab8d:13bd;",
    "ab8e:13be;ab8f:13bf;ab90:13c0;ab91:13c1;ab92:13c2;ab93:13c3;ab94:13c4;ab95:13c5;",
    "ab96:13c6;ab97:13c7;ab98:13c8;ab99:13c9;ab9a:13ca;ab9b:13cb;ab9c:13cc;ab9d:13cd;",
    "ab9e:13ce;ab9f:13cf;aba0:13d0;aba1:13d1;aba2:13d2;aba3:13d3;aba4:13d4;aba5:13d5;",
    "aba6:13d6;aba7:13d7;aba8:13d8;aba9:13d9;abaa:13da;abab:13db;abac:13dc;abad:13dd;",
    "abae:13de;abaf:13df;abb0:13e0;abb1:13e1;abb2:13e2;abb3:13e3;abb4:13e4;abb5:13e5;",
    "abb6:13e6;abb7:13e7;abb8:13e8;abb9:13e9;abba:13ea;abbb:13eb;abbc:13ec;abbd:13ed;",
    "abbe:13ee;abbf:13ef;fb00:46,46;fb01:46,49;fb02:46,4c;fb03:46,46,49;fb04:46,46,4c;",
    "fb05:53,54;fb06:53,54;fb13:544,546;fb14:544,535;fb15:544,53b;fb16:54e,546;",
    "fb17:544,53d;ff41:ff21;ff42:ff22;ff43:ff23;ff44:ff24;ff45:ff25;ff46:ff26;ff47:ff27;",
    "ff48:ff28;ff49:ff29;ff4a:ff2a;ff4b:ff2b;ff4c:ff2c;ff4d:ff2d;ff4e:ff2e;ff4f:ff2f;",
    "ff50:ff30;ff51:ff31;ff52:ff32;ff53:ff33;ff54:ff34;ff55:ff35;ff56:ff36;ff57:ff37;",
    "ff58:ff38;ff59:ff39;ff5a:ff3a;10428:10400;10429:10401;1042a:10402;1042b:10403;",
    "1042c:10404;1042d:10405;1042e:10406;1042f:10407;10430:10408;10431:10409;10432:1040a;",
    "10433:1040b;10434:1040c;10435:1040d;10436:1040e;10437:1040f;10438:10410;10439:10411;",
    "1043a:10412;1043b:10413;1043c:10414;1043d:10415;1043e:10416;1043f:10417;10440:10418;",
    "10441:10419;10442:1041a;10443:1041b;10444:1041c;10445:1041d;10446:1041e;10447:1041f;",
    "10448:10420;10449:10421;1044a:10422;1044b:10423;1044c:10424;1044d:10425;1044e:10426;",
    "1044f:10427;104d8:104b0;104d9:104b1;104da:104b2;104db:104b3;104dc:104b4;104dd:104b5;",
    "104de:104b6;104df:104b7;104e0:104b8;104e1:104b9;104e2:104ba;104e3:104bb;104e4:104bc;",
    "104e5:104bd;104e6:104be;104e7:104bf;104e8:104c0;104e9:104c1;104ea:104c2;104eb:104c3;",
    "104ec:104c4;104ed:104c5;104ee:104c6;104ef:104c7;104f0:104c8;104f1:104c9;104f2:104ca;",
    "104f3:104cb;104f4:104cc;104f5:104cd;104f6:104ce;104f7:104cf;104f8:104d0;104f9:104d1;",
    "104fa:104d2;104fb:104d3;10597:10570;10598:10571;10599:10572;1059a:10573;1059b:10574;",
    "1059c:10575;1059d:10576;1059e:10577;1059f:10578;105a0:10579;105a1:1057a;105a3:1057c;",
    "105a4:1057d;105a5:1057e;105a6:1057f;105a7:10580;105a8:10581;105a9:10582;105aa:10583;",
    "105ab:10584;105ac:10585;105ad:10586;105ae:10587;105af:10588;105b0:10589;105b1:1058a;",
    "105b3:1058c;105b4:1058d;105b5:1058e;105b6:1058f;105b7:10590;105b8:10591;105b9:10592;",
    "105bb:10594;105bc:10595;10cc0:10c80;10cc1:10c81;10cc2:10c82;10cc3:10c83;10cc4:10c84;",
    "10cc5:10c85;10cc6:10c86;10cc7:10c87;10cc8:10c88;10cc9:10c89;10cca:10c8a;10ccb:10c8b;",
    "10ccc:10c8c;10ccd:10c8d;10cce:10c8e;10ccf:10c8f;10cd0:10c90;10cd1:10c91;10cd2:10c92;",
    "10cd3:10c93;10cd4:10c94;10cd5:10c95;10cd6:10c96;10cd7:10c97;10cd8:10c98;10cd9:10c99;",
    "10cda:10c9a;10cdb:10c9b;10cdc:10c9c;10cdd:10c9d;10cde:10c9e;10cdf:10c9f;10ce0:10ca0;",
    "10ce1:10ca1;10ce2:10ca2;10ce3:10ca3;10ce4:10ca4;10ce5:10ca5;10ce6:10ca6;10ce7:10ca7;",
    "10ce8:10ca8;10ce9:10ca9;10cea:10caa;10ceb:10cab;10cec:10cac;10ced:10cad;10cee:10cae;",
    "10cef:10caf;10cf0:10cb0;10cf1:10cb1;10cf2:10cb2;10d70:10d50;10d71:10d51;10d72:10d52;",
    "10d73:10d53;10d74:10d54;10d75:10d55;10d76:10d56;10d77:10d57;10d78:10d58;10d79:10d59;",
    "10d7a:10d5a;10d7b:10d5b;10d7c:10d5c;10d7d:10d5d;10d7e:10d5e;10d7f:10d5f;10d80:10d60;",
    "10d81:10d61;10d82:10d62;10d83:10d63;10d84:10d64;10d85:10d65;118c0:118a0;118c1:118a1;",
    "118c2:118a2;118c3:118a3;118c4:118a4;118c5:118a5;118c6:118a6;118c7:118a7;118c8:118a8;",
    "118c9:118a9;118ca:118aa;118cb:118ab;118cc:118ac;118cd:118ad;118ce:118ae;118cf:118af;",
    "118d0:118b0;118d1:118b1;118d2:118b2;118d3:118b3;118d4:118b4;118d5:118b5;118d6:118b6;",
    "118d7:118b7;118d8:118b8;118d9:118b9;118da:118ba;118db:118bb;118dc:118bc;118dd:118bd;",
    "118de:118be;118df:118bf;16e60:16e40;16e61:16e41;16e62:16e42;16e63:16e43;16e64:16e44;",
    "16e65:16e45;16e66:16e46;16e67:16e47;16e68:16e48;16e69:16e49;16e6a:16e4a;16e6b:16e4b;",
    "16e6c:16e4c;16e6d:16e4d;16e6e:16e4e;16e6f:16e4f;16e70:16e50;16e71:16e51;16e72:16e52;",
    "16e73:16e53;16e74:16e54;16e75:16e55;16e76:16e56;16e77:16e57;16e78:16e58;16e79:16e59;",
    "16e7a:16e5a;16e7b:16e5b;16e7c:16e5c;16e7d:16e5d;16e7e:16e5e;16e7f:16e5f;16ebb:16ea0;",
    "16ebc:16ea1;16ebd:16ea2;16ebe:16ea3;16ebf:16ea4;16ec0:16ea5;16ec1:16ea6;16ec2:16ea7;",
    "16ec3:16ea8;16ec4:16ea9;16ec5:16eaa;16ec6:16eab;16ec7:16eac;16ec8:16ead;16ec9:16eae;",
    "16eca:16eaf;16ecb:16eb0;16ecc:16eb1;16ecd:16eb2;16ece:16eb3;16ecf:16eb4;16ed0:16eb5;",
    "16ed1:16eb6;16ed2:16eb7;16ed3:16eb8;1e922:1e900;1e923:1e901;1e924:1e902;1e925:1e903;",
    "1e926:1e904;1e927:1e905;1e928:1e906;1e929:1e907;1e92a:1e908;1e92b:1e909;1e92c:1e90a;",
    "1e92d:1e90b;1e92e:1e90c;1e92f:1e90d;1e930:1e90e;1e931:1e90f;1e932:1e910;1e933:1e911;",
    "1e934:1e912;1e935:1e913;1e936:1e914;1e937:1e915;1e938:1e916;1e939:1e917;1e93a:1e918;",
    "1e93b:1e919;1e93c:1e91a;1e93d:1e91b;1e93e:1e91c;1e93f:1e91d;1e940:1e91e;1e941:1e91f;",
    "1e942:1e920;1e943:1e921;"]

/-- Full lowercase mappings of the characters that change, as `code:mapped,…;`. -/
def lowerMapText : String :=
  String.join [
    "41:61;42:62;43:63;44:64;45:65;46:66;47:67;48:68;49:69;4a:6a;4b:6b;4c:6c;4d:6d;4e:6e;",
    "4f:6f;50:70;51:71;52:72;53:73;54:74;55:75;56:76;57:77;58:78;59:79;5a:7a;c0:e0;c1:e1;",
    "c2:e2;c3:e3;c4:e4;c5:e5;c6:e6;c7:e7;c8:e8;c9:e9;ca:ea;cb:eb;cc:ec;cd:ed;ce:ee;cf:ef;",
    "d0:f0;d1:f1;d2:f2;d3:f3;d4:f4;d5:f5;d6:f6;d8:f8;d9:f9;da:fa;db:fb;dc:fc;dd:fd;de:fe;",
    "100:101;102:103;104:105;106:107;108:109;10a:10b;10c:10d;10e:10f;110:111;112:113;",
    "114:115;116:117;118:119;11a:11b;11c:11d;11e:11f;120:121;122:123;124:125;126:127;",
    "128:129;12a:12b;12c:12d;12e:12f;130:69,307;132:133;134:135;136:137;139:13a;13b:13c;",
    "13d:13e;13f:140;141:142;143:144;145:146;147:148;14a:14b;14c:14d;14e:14f;150:151;",
    "152:153;154:155;156:157;158:159;15a:15b;15c:15d;15e:15f;160:161;162:163;164:165;",
    "166:167;168:169;16a:16b;16c:16d;16e:16f;170:171;172:173;174:175;176:177;178:ff;",
    "179:17a;17b:17c;17d:17e;181:253;182:183;184:185;186:254;187:188;189:256;18a:257;",
    "18b:18c;18e:1dd;18f:259;190:25b;191:192;193:260;194:263;196:269;197:268;198:199;",
    "19c:26f;19d:272;19f:275;1a0:1a1;1a2:1a3;1a4:1a5;1a6:280;1a7:1a8;1a9:283;1ac:1ad;",
    "1ae:288;1af:1b0;1b1:28a;1b2:28b;1b3:1b4;1b5:1b6;1b7:292;1b8:1b9;1bc:1bd;1c4:1c6;",
    "1c5:1c6;1c7:1c9;1c8:1c9;1ca:1cc;1cb:1cc;1cd:1ce;1cf:1d0;1d1:1d2;1d3:1d4;1d5:1d6;",
    "1d7:1d8;1d9:1da;1db:1dc;1de:1df;1e0:1e1;1e2:1e3;1e4:1e5;1e6:1e7;1e8:1e9;1ea:1eb;",
    "1ec:1ed;1ee:1ef;1f1:1f3;1f2:1f3;1f4:1f5;1f6:195;1f7:1bf;1f8:1f9;1fa:1fb;1fc:1fd;",
    "1fe:1ff;200:201;202:203;204:205;206:207;208:209;20a:20b;20c:20d;20e:20f;210:211;",
    "212:213;214:215;216:217;218:219;21a:21b;21c:21d;21e:21f;220:19e;222:223;224:225;",
    "226:227;228:229;22a:22b;22c:22d;22e:22f;230:231;232:233;23a:2c65;23b:23c;23d:19a;",
    "23e:2c66;241:242;243:180;244:289;245:28c;246:247;248:249;24a:24b;24c:24d;24e:24f;",
    "370:371;372:373;376:377;37f:3f3;386:3ac;388:3ad;389:3ae;38a:3af;38c:3cc;38e:3cd;",
    "38f:3ce;391:3b1;392:3b2;393:3b3;394:3b4;395:3b5;396:3b6;397:3b7;398:3b8;399:3b9;",
    "39a:3ba;39b:3bb;39c:3bc;39d:3bd;39e:3be;39f:3bf;3a0:3c0;3a1:3c1;3a3:3c3;3a4:3c4;",
    "3a5:3c5;3a6:3c6;3a7:3c7;3a8:3c8;3a9:3c9;3aa:3ca;3ab:3cb;3cf:3d7;3d8:3d9;3da:3db;",
    "3dc:3dd;3de:3df;3e0:3e1;3e2:3e3;3e4:3e5;3e6:3e7;3e8:3e9;3ea:3eb;3ec:3ed;3ee:3ef;",
    "3f4:3b8;3f7:3f8;3f9:3f2;3fa:3fb;3fd:37b;3fe:37c;3ff:37d;400:450;401:451;402:452;",
    "403:453;404:454;405:455;406:456;407:457;408:458;409:459;40a:45a;40b:45b;40c:45c;",
    "40d:45d;40e:45e;40f:45f;410:430;411:431;412:432;413:433;414:434;415:435;416:436;",
    "417:437;418:438;419:439;41a:43a;41b:43b;41c:43c;41d:43d;41e:43e;41f:43f;420:440;",
    "421:441;422:442;423:443;424:444;425:445;426:446;427:447;428:448;429:449;42a:44a;",
    "42b:44b;42c:44c;42d:44d;42e:44e;42f:44f;460:461;462:463;464:465;466:467;468:469;",
    "46a:46b;46c:46d;46e:46f;470:471;472:473;474:475;476:477;478:479;47a:47b;47c:47d;",
    "47e:47f;480:481;48a:48b;48c:48d;48e:48f;490:491;492:493;494:495;496:497;498:499;",
    "49a:49b;49c:49d;49e:49f;4a0:4a1;4a2:4a3;4a4:4a5;4a6:4a7;4a8:4a9;4aa:4ab;4ac:4ad;",
    "4ae:4af;4b0:4b1;4b2:4b3;4b4:4b5;4b6:4b7;4b8:4b9;4ba:4bb;4bc:4bd;4be:4bf;4c0:4cf;",
    "4c1:4c2;4c3:4c4;4c5:4c6;4c7:4c8;4c9:4ca;4cb:4cc;4cd:4ce;4d0:4d1;4d2:4d3;4d4:4d5;",
    "4d6:4d7;4d8:4d9;4da:4db;4dc:4dd;4de:4df;4e0:4e1;4e2:4e3;4e4:4e5;4e6:4e7;4e8:4e9;",
    "4ea:4eb;4ec:4ed;4ee:4ef;4f0:4f1;4f2:4f3;4f4:4f5;4f6:4f7;4f8:4f9;4fa:4fb;4fc:4fd;",
    "4fe:4ff;500:501;502:503;504:505;506:507;508:509;50a:50b;50c:50d;50e:50f;510:511;",
    "512:513;514:515;516:517;518:519;51a:51b;51c:51d;51e:51f;520:521;522:523;524:525;",
    "526:527;528:529;52a:52b;52c:52d;52e:52f;531:561;532:562;533:563;534:564;535:565;",
    "536:566;537:567;538:568;539:569;53a:56a;53b:56b;53c:56c;53d:56d;53e:56e;53f:56f;",
    "540:570;541:571;542:572;543:573;544:574;545:575;546:576;547:577;548:578;549:579;",
    "54a:57a;54b:57b;54c:57c;54d:57d;54e:57e;54f:57f;550:580;551:581;552:582;553:583;",
    "554:584;555:585;556:586;10a0:2d00;10a1:2d01;10a2:2d02;10a3:2d03;10a4:2d04;10a5:2d05;",
    "10a6:2d06;10a7:2d07;10a8:2d08;10a9:2d09;10aa:2d0a;10ab:2d0b;10ac:2d0c;10ad:2d0d;",
    "10ae:2d0e;10af:2d0f;10b0:2d10;10b1:2d11;10b2:2d12;10b3:2d13;10b4:2d14;10b5:2d15;",
    "10b6:2d16;10b7:2d17;10b8:2d18;10b9:2d19;10ba:2d1a;10bb:2d1b;10bc:2d1c;10bd:2d1d;",
    "10be:2d1e;10bf:2d1f;10c0:2d20;10c1:2d21;10c2:2d22;10c3:2d23;10c4:2d24;10c5:2d25;",
    "10c7:2d27;10cd:2d2d;13a0:ab70;13a1:ab71;13a2:ab72;13a3:ab73;13a4:ab74;13a5:ab75;",
    "13a6:ab76;13a7:ab77;13a8:ab78;13a9:ab79;13aa:ab7a;13ab:ab7b;13ac:ab7c;13ad:ab7d;",
    "13ae:ab7e;13af:ab7f;13b0:ab80;13b1:ab81;13b2:ab82;13b3:ab83;13b4:ab84;13b5:ab85;",
    "13b6:ab86;13b7:ab87;13b8:ab88;13b9:ab89;13ba:ab8a;13bb:ab8b;13bc:ab8c;13bd:ab8d;",
    "13be:ab8e;13bf:ab8f;13c0:ab90;13c1:ab91;13c2:ab92;13c3:ab93;13c4:ab94;13c5:ab95;",
    "13c6:ab96;13c7:ab97;13c8:ab98;13c9:ab99;13ca:ab9a;13cb:ab9b;13cc:ab9c;13cd:ab9d;",
    "13ce:ab9e;13cf:ab9f;13d0:aba0;13d1:aba1;13d2:aba2;13d3:aba3;13d4:aba4;13d5:aba5;",
    "13d6:aba6;13d7:aba7;13d8:aba8;13d9:aba9;13da:abaa;13db:abab;13dc:abac;13dd:abad;",
    "13de:abae;13df:abaf;13e0:abb0;13e1:abb1;13e2:abb2;13e3:abb3;13e4:abb4;13e5:abb5;",
    "13e6:abb6;13e7:abb7;13e8:abb8;13e9:abb9;13ea:abba;13eb:abbb;13ec:abbc;13ed:abbd;",
    "13ee:abbe;13ef:abbf;13f0:13f8;13f1:13f9;13f2:13fa;13f3:13fb;13f4:13fc;13f5:13fd;",
    "1c89:1c8a;1c90:10d0;1c91:10d1;1c92:10d2;1c93:10d3;1c94:10d4;1c95:10d5;1c96:10d6;",
    "1c97:10d7;1c98:10d8;1c99:10d9;1c9a:10da;1c9b:10db;1c9c:10dc;1c9d:10dd;1c9e:10de;",
    "1c9f:10df;1ca0:10e0;1ca1:10e1;1ca2:10e2;1ca3:10e3;1ca4:10e4;1ca5:10e5;1ca6:10e6;",
    "1ca7:10e7;1ca8:10e8;1ca9:10e9;1caa:10ea;1cab:10eb;1cac:10ec;1cad:10ed;1cae:10ee;",
    "1caf:10ef;1cb0:10f0;1cb1:10f1;1cb2:10f2;1cb3:10f3;1cb4:10f4;1cb5:10f5;1cb6:10f6;",
    "1cb7:10f7;1cb8:10f8;1cb9:10f9;1cba:10fa;1cbd:10fd;1cbe:10fe;1cbf:10ff;1e00:1e01;",
    "1e02:1e03;1e04:1e05;1e06:1e07;1e08:1e09;1e0a:1e0b;1e0c:1e0d;1e0e:1e0f;1e10:1e11;",
    "1e12:1e13;1e14:1e15;1e16:1e17;1e18:1e19;1e1a:1e1b;1e1c:1e1d;1e1e:1e1f;1e20:1e21;",
    "1e22:1e23;1e24:1e25;1e26:1e27;1e28:1e29;1e2a:1e2b;1e2c:1e2d;1e2e:1e2f;1e30:1e31;",
    "1e32:1e33;1e34:1e35;1e36:1e37;1e38:1e39;1e3a:1e3b;1e3c:1e3d;1e3e:1e3f;1e40:1e41;",
    "1e42:1e43;1e44:1e45;1e46:1e47;1e48:1e49;1e4a:1e4b;1e4c:1e4d;1e4e:1e4f;1e50:1e51;",
    "1e52:1e53;1e54:1e55;1e56:1e57;1e58:1e59;1e5a:1e5b;1e5c:1e5d;1e5e:1e5f;1e60:1e61;",
    "1e62:1e63;1e64:1e65;1e66:1e67;1e68:1e69;1e6a:1e6b;1e6c:1e6d;1e6e:1e6f;1e70:1e71;",
    "1e72:1e73;1e74:1e75;1e76:1e77;1e78:1e79;1e7a:1e7b;1e7c:1e7d;1e7e:1e7f;1e80:1e81;",
    "1e82:1e83;1e84:1e85;1e86:1e87;1e88:1e89;1e8a:1e8b;1e8c:1e8d;1e8e:1e8f;1e90:1e91;",
    "1e92:1e93;1e94:1e95;1e9e:df;1ea0:1ea1;1ea2:1ea3;1ea4:1ea5;1ea6:1ea7;1ea8:1ea9;",
    "1eaa:1eab;1eac:1ead;1eae:1eaf;1eb0:1eb1;1eb2:1eb3;1eb4:1eb5;1eb6:1eb7;1eb8:1eb9;",
    "1eba:1ebb;1ebc:1ebd;1ebe:1ebf;1ec0:1ec1;1ec2:1ec3;1ec4:1ec5;1ec6:1ec7;1ec8:1ec9;",
    "1eca:1ecb;1ecc:1ecd;1ece:1ecf;1ed0:1ed1;1ed2:1ed3;1ed4:1ed5;1ed6:1ed7;1ed8:1ed9;",
    "1eda:1edb;1edc:1edd;1ede:1edf;1ee0:1ee1;1ee2:1ee3;1ee4:1ee5;1ee6:1ee7;1ee8:1ee9;",
    "1eea:1eeb;1eec:1eed;1eee:1eef;1ef0:1ef1;1ef2:1ef3;1ef4:1ef5;1ef6:1ef7;1ef8:1ef9;",
    "1efa:1efb;1efc:1efd;1efe:1eff;1f08:1f00;1f09:1f01;1f0a:1f02;1f0b:1f03;1f0c:1f04;",
    "1f0d:1f05;1f0e:1f06;1f0f:1f07;1f18:1f10;1f19:1f11;1f1a:1f12;1f1b:1f13;1f1c:1f14;",
    "1f1d:1f15;1f28:1f20;1f29:1f21;1f2a:1f22;1f2b:1f23;1f2c:1f24;1f2d:1f25;1f2e:1f26;",
    "1f2f:1f27;1f38:1f30;1f39:1f31;1f3a:1f32;1f3b:1f33;1f3c:1f34;1f3d:1f35;1f3e:1f36;",
    "1f3f:1f37;1f48:1f40;1f49:1f41;1f4a:1f42;1f4b:1f43;1f4c:1f44;1f4d:1f45;1f59:1f51;",
    "1f5b:1f53;1f5d:1f55;1f5f:1f57;1f68:1f60;1f69:1f61;1f6a:1f62;1f6b:1f63;1f6c:1f64;",
    "1f6d:1f65;1f6e:1f66;1f6f:1f67;1f88:1f80;1f89:1f81;1f8a:1f82;1f8b:1f83;1f8c:1f84;",
    "1f8d:1f85;1f8e:1f86;1f8f:1f87;1f98:1f90;1f99:1f91;1f9a:1f92;1f9b:1f93;1f9c:1f94;",
    "1f9d:1f95;1f9e:1f96;1f9f:1f97;1fa8:1fa0;1fa9:1fa1;1faa:1fa2;1fab:1fa3;1fac:1fa4;",
    "1fad:1fa5;1fae:1fa6;1faf:1fa7;1fb8:1fb0;1fb9:1fb1;1fba:1f70;1fbb:1f71;1fbc:1fb3;",
    "1fc8:1f72;1fc9:1f73;1fca:1f74;1fcb:1f75;1fcc:1fc3;1fd8:1fd0;1fd9:1fd1;1fda:1f76;",
    "1fdb:1f77;1fe8:1fe0;1fe9:1fe1;1fea:1f7a;1feb:1f7b;1fec:1fe5;1ff8:1f78;1ff9:1f79;",
    "1ffa:1f7c;1ffb:1f7d;1ffc:1ff3;2126:3c9;212a:6b;212b:e5;2132:214e;2160:2170;2161:2171;",
    "2162:2172;2163:2173;2164:2174;2165:2175;2166:2176;2167:2177;2168:2178;2169:2179;",
    "216a:217a;216b:217b;216c:217c;216d:217d;216e:217e;216f:217f;2183:2184;24b6:24d0;",
    "24b7:24d1;24b8:24d2;24b9:24d3;24ba:24d4;24bb:24d5;24bc:24d6;24bd:24d7;24be:24d8;",
    "24bf:24d9;24c0:24da;24c1:24db;24c2:24dc;24c3:24dd;24c4:24de;24c5:24df;24c6:24e0;",
    "24c7:24e1;24c8:24e2;24c9:24e3;24ca:24e4;24cb:24e5;24cc:24e6;24cd:24e7;24ce:24e8;",
    "24cf:24e9;2c00:2c30;2c01:2c31;2c02:2c32;2c03:2c33;2c04:2c34;2c05:2c35;2c06:2c36;",
    "2c07:2c37;2c08:2c38;2c09:2c39;2c0a:2c3a;2c0b:2c3b;2c0c:2c3c;2c0d:2c3d;2c0e:2c3e;",
    "2c0f:2c3f;2c10:2c40;2c11:2c41;2c12:2c42;2c13:2c43;2c14:2c44;2c15:2c45;2c16:2c46;",
    "2c17:2c47;2c18:2c48;2c19:2c49;2c1a:2c4a;2c1b:2c4b;2c1c:2c4c;2c1d:2c4d;2c1e:2c4e;",
    "2c1f:2c4f;2c20:2c50;2c21:2c51;2c22:2c52;2c23:2c53;2c24:2c54;2c25:2c55;2c26:2c56;",
    "2c27:2c57;2c28:2c58;2c29:2c59;2c2a:2c5a;2c2b:2c5b;2c2c:2c5c;2c2d:2c5d;2c2e:2c5e;",
    "2c2f:2c5f;2c60:2c61;2c62:26b;2c63:1d7d;2c64:27d;2c67:2c68;2c69:2c6a;2c6b:2c6c;",
    "2c6d:251;2c6e:271;2c6f:250;2c70:252;2c72:2c73;2c75:2c76;2c7e:23f;2c7f:240;2c80:2c81;",
    "2c82:2c83;2c84:2c85;2c86:2c87;2c88:2c89;2c8a:2c8b;2c8c:2c8d;2c8e:2c8f;2c90:2c91;",
    "2c92:2c93;2c94:2c95;2c96:2c97;2c98:2c99;2c9a:2c9b;2c9c:2c9d;2c9e:2c9f;2ca0:2ca1;",
    "2ca2:2ca3;2ca4:2ca5;2ca6:2ca7;2ca8:2ca9;2caa:2cab;2cac:2cad;2cae:2caf;2cb0:2cb1;",
    "2cb2:2cb3;2cb4:2cb5;2cb6:2cb7;2cb8:2cb9;2cba:2cbb;2cbc:2cbd;2cbe:2cbf;2cc0:2cc1;",
    "2cc2:2cc3;2cc4:2cc5;2cc6:2cc7;2cc8:2cc9;2cca:2ccb;2ccc:2ccd;2cce:2ccf;2cd0:2cd1;",
    "2cd2:2cd3;2cd4:2cd5;2cd6:2cd7;2cd8:2cd9;2cda:2cdb;2cdc:2cdd;2cde:2cdf;2ce0:2ce1;",
    "2ce2:2ce3;2ceb:2cec;2ced:2cee;2cf2:2cf3;a640:a641;a642:a643;a644:a645;a646:a647;",
    "a648:a649;a64a:a64b;a64c:a64d;a64e:a64f;a650:a651;a652:a653;a654:a655;a656:a657;",
    "a658:a659;a65a:a65b;a65c:a65d;a65e:a65f;a660:a661;a662:a663;a664:a665;a666:a667;",
    "a668:a669;a66a:a66b;a66c:a66d;a680:a681;a682:a683;a684:a685;a686:a687;a688:a689;",
    "a68a:a68b;a68c:a68d;a68e:a68f;a690:a691;a692:a693;a694:a695;a696:a697;a698:a699;",
    "a69a:a69b;a722:a723;a724:a725;a726:a727;a728:a729;a72a:a72b;a72c:a72d;a72e:a72f;",
    "a732:a733;a734:a735;a736:a737;a738:a739;a73a:a73b;a73c:a73d;a73e:a73f;a740:a741;",
    "a742:a743;a744:a745;a746:a747;a748:a749;a74a:a74b;a74c:a74d;a74e:a74f;a750:a751;",
    "a752:a753;a754:a755;a756:a757;a758:a759;a75a:a75b;a75c:a75d;a75e:a75f;a760:a761;",
    "a762:a763;a764:a765;a766:a767;a768:a769;a76a:a76b;a76c:a76d;a76e:a76f;a779:a77a;",
    "a77b:a77c;a77d:1d79;a77e:a77f;a780:a781;a782:a783;a784:a785;a786:a787;a78b:a78c;",
    "a78d:265;a790:a791;a792:a793;a796:a797;a798:a799;a79a:a79b;a79c:a79d;a79e:a79f;",
    "a7a0:a7a1;a7a2:a7a3;a7a4:a7a5;a7a6:a7a7;a7a8:a7a9;a7aa:266;a7ab:25c;a7ac:261;a7ad:26c;",
    "a7ae:26a;a7b0:29e;a7b1:287;a7b2:29d;a7b3:ab53;a7b4:a7b5;a7b6:a7b7;a7b8:a7b9;a7ba:a7bb;",
    "a7bc:a7bd;a7be:a7bf;a7c0:a7c1;a7c2:a7c3;a7c4:a794;a7c5:282;a7c6:1d8e;a7c7:a7c8;",
    "a7c9:a7ca;a7cb:264;a7cc:a7cd;a7ce:a7cf;a7d0:a7d1;a7d2:a7d3;a7d4:a7d5;a7d6:a7d7;",
    "a7d8:a7d9;a7da:a7db;a7dc:19b;a7f5:a7f6;ff21:ff41;ff22:ff42;ff23:ff43;ff24:ff44;",
    "ff25:ff45;ff26:ff46;ff27:ff47;ff28:ff48;ff29:ff49;ff2a:ff4a;ff2b:ff4b;ff2c:ff4c;",
    "ff2d:ff4d;ff2e:ff4e;ff2f:ff4f;ff30:ff50;ff31:ff51;ff32:ff52;ff33:ff53;ff34:ff54;",
    "ff35:ff55;ff36:ff56;ff37:ff57;ff38:ff58;ff39:ff59;ff3a:ff5a;10400:10428;10401:10429;",
    "10402:1042a;10403:1042b;10404:1042c;10405:1042d;10406:1042e;10407:1042f;10408:10430;",
    "10409:10431;1040a:10432;1040b:10433;1040c:10434;1040d:10435;1040e:10436;1040f:10437;",
    "10410:10438;10411:10439;10412:1043a;10413:1043b;10414:1043c;10415:1043d;10416:1043e;",
    "10417:1043f;10418:10440;10419:10441;1041a:10442;1041b:10443;1041c:10444;1041d:10445;",
    "1041e:10446;1041f:10447;10420:10448;10421:10449;10422:1044a;10423:1044b;10424:1044c;",
    "10425:1044d;10426:1044e;10427:1044f;104b0:104d8;104b1:104d9;104b2:104da;104b3:104db;",
    "104b4:104dc;104b5:104dd;104b6:104de;104b7:104df;104b8:104e0;104b9:104e1;104ba:104e2;",
    "104bb:104e3;104bc:104e4;104bd:104e5;104be:104e6;104bf:104e7;104c0:104e8;104c1:104e9;",
    "104c2:104ea;104c3:104eb;104c4:104ec;104c5:104ed;104c6:104ee;104c7:104ef;104c8:104f0;",
    "104c9:104f1;104ca:104f2;104cb:104f3;104cc:104f4;104cd:104f5;104ce:104f6;104cf:104f7;",
    "104d0:104f8;104d1:104f9;104d2:104fa;104d3:104fb;10570:10597;10571:10598;10572:10599;",
    "10573:1059a;10574:1059b;10575:1059c;10576:1059d;10577:1059e;10578:1059f;10579:105a0;",
    "1057a:105a1;1057c:105a3;1057d:105a4;1057e:105a5;1057f:105a6;10580:105a7;10581:105a8;",
    "10582:105a9;10583:105aa;10584:105ab;10585:105ac;10586:105ad;10587:105ae;10588:105af;",
    "10589:105b0;1058a:105b1;1058c:105b3;1058d:105b4;1058e:105b5;1058f:105b6;10590:105b7;",
    "10591:105b8;10592:105b9;10594:105bb;10595:105bc;10c80:10cc0;10c81:10cc1;10c82:10cc2;",
    "10c83:10cc3;10c84:10cc4;10c85:10cc5;10c86:10cc6;10c87:10cc7;10c88:10cc8;10c89:10cc9;",
    "10c8a:10cca;10c8b:10ccb;10c8c:10ccc;10c8d:10ccd;10c8e:10cce;10c8f:10ccf;10c90:10cd0;",
    "10c91:10cd1;10c92:10cd2;10c93:10cd3;10c94:10cd4;10c95:10cd5;10c96:10cd6;10c97:10cd7;",
    "10c98:10cd8;10c99:10cd9;10c9a:10cda;10c9b:10cdb;10c9c:10cdc;10c9d:10cdd;10c9e:10cde;",
    "10c9f:10cdf;10ca0:10ce0;10ca1:10ce1;10ca2:10ce2;10ca3:10ce3;10ca4:10ce4;10ca5:10ce5;",
    "10ca6:10ce6;10ca7:10ce7;10ca8:10ce8;10ca9:10ce9;10caa:10cea;10cab:10ceb;10cac:10cec;",
    "10cad:10ced;10cae:10cee;10caf:10cef;10cb0:10cf0;10cb1:10cf1;10cb2:10cf2;10d50:10d70;",
    "10d51:10d71;10d52:10d72;10d53:10d73;10d54:10d74;10d55:10d75;10d56:10d76;10d57:10d77;",
    "10d58:10d78;10d59:10d79;10d5a:10d7a;10d5b:10d7b;10d5c:10d7c;10d5d:10d7d;10d5e:10d7e;",
    "10d5f:10d7f;10d60:10d80;10d61:10d81;10d62:10d82;10d63:10d83;10d64:10d84;10d65:10d85;",
    "118a0:118c0;118a1:118c1;118a2:118c2;118a3:118c3;118a4:118c4;118a5:118c5;118a6:118c6;",
    "118a7:118c7;118a8:118c8;118a9:118c9;118aa:118ca;118ab:118cb;118ac:118cc;118ad:118cd;",
    "118ae:118ce;118af:118cf;118b0:118d0;118b1:118d1;118b2:118d2;118b3:118d3;118b4:118d4;",
    "118b5:118d5;118b6:118d6;118b7:118d7;118b8:118d8;118b9:118d9;118ba:118da;118bb:118db;",
    "118bc:118dc;118bd:118dd;118be:118de;118bf:118df;16e40:16e60;16e41:16e61;16e42:16e62;",
    "16e43:16e63;16e44:16e64;16e45:16e65;16e46:16e66;16e47:16e67;16e48:16e68;16e49:16e69;",
    "16e4a:16e6a;16e4b:16e6b;16e4c:16e6c;16e4d:16e6d;16e4e:16e6e;16e4f:16e6f;16e50:16e70;",
    "16e51:16e71;16e52:16e72;16e53:16e73;16e54:16e74;16e55:16e75;16e56:16e76;16e57:16e77;",
    "16e58:16e78;16e59:16e79;16e5a:16e7a;16e5b:16e7b;16e5c:16e7c;16e5d:16e7d;16e5e:16e7e;",
    "16e5f:16e7f;16ea0:16ebb;16ea1:16ebc;16ea2:16ebd;16ea3:16ebe;16ea4:16ebf;16ea5:16ec0;",
    "16ea6:16ec1;16ea7:16ec2;16ea8:16ec3;16ea9:16ec4;16eaa:16ec5;16eab:16ec6;16eac:16ec7;",
    "16ead:16ec8;16eae:16ec9;16eaf:16eca;16eb0:16ecb;16eb1:16ecc;16eb2:16ecd;16eb3:16ece;",
    "16eb4:16ecf;16eb5:16ed0;16eb6:16ed1;16eb7:16ed2;16eb8:16ed3;1e900:1e922;1e901:1e923;",
    "1e902:1e924;1e903:1e925;1e904:1e926;1e905:1e927;1e906:1e928;1e907:1e929;1e908:1e92a;",
    "1e909:1e92b;1e90a:1e92c;1e90b:1e92d;1e90c:1e92e;1e90d:1e92f;1e90e:1e930;1e90f:1e931;",
    "1e910:1e932;1e911:1e933;1e912:1e934;1e913:1e935;1e914:1e936;1e915:1e937;1e916:1e938;",
    "1e917:1e939;1e918:1e93a;1e919:1e93b;1e91a:1e93c;1e91b:1e93d;1e91c:1e93e;1e91d:1e93f;",
    "1e91e:1e940;1e91f:1e941;1e920:1e942;1e921:1e943;"]

/-- Characters that do not print on their own: controls, format characters, surrogates,
private use, unassigned code points, separators other than the space, the characters
that extend the grapheme before them, and those that are ignorable by default (such as
the Hangul fillers). -/
def hiddenText : String :=
  String.join [
    "0,1f;7f,a0;ad;300,36f;378,379;380,383;38b;38d;3a2;483,489;530;557,558;58b,58c;590,5bd;",
    "5bf;5c1,5c2;5c4,5c5;5c7,5cf;5eb,5ee;5f5,605;610,61a;61c;64b,65f;670;6d6,6dd;6df,6e4;",
    "6e7,6e8;6ea,6ed;70e,70f;711;730,74c;7a6,7b0;7b2,7bf;7eb,7f3;7fb,7fd;816,819;81b,823;",
    "825,827;829,82f;83f;859,85d;85f;86b,86f;890,89f;8ca,902;93a;93c;941,948;94d;951,957;",
    "962,963;981;984;98d,98e;991,992;9a9;9b1;9b3,9b5;9ba,9bc;9be;9c1,9c6;9c9,9ca;9cd;",
    "9cf,9db;9de;9e2,9e5;9fe,a02;a04;a0b,a0e;a11,a12;a29;a31;a34;a37;a3a,a3d;a41,a58;a5d;",
    "a5f,a65;a70,a71;a75;a77,a82;a84;a8e;a92;aa9;ab1;ab4;aba,abc;ac1,ac8;aca;acd,acf;",
    "ad1,adf;ae2,ae5;af2,af8;afa,b01;b04;b0d,b0e;b11,b12;b29;b31;b34;b3a,b3c;b3e,b3f;",
    "b41,b46;b49,b4a;b4d,b5b;b5e;b62,b65;b78,b82;b84;b8b,b8d;b91;b96,b98;b9b;b9d;ba0,ba2;",
    "ba5,ba7;bab,bad;bba,bbe;bc0;bc3,bc5;bc9;bcd,bcf;bd1,be5;bfb,c00;c04;c0d;c11;c29;",
    "c3a,c3c;c3e,c40;c45,c57;c5b;c5e,c5f;c62,c65;c70,c76;c81;c8d;c91;ca9;cb4;cba,cbc;",
    "cbf,cc0;cc2;cc5,cdb;cdf;ce2,ce5;cf0;cf4,d01;d0d;d11;d3b,d3c;d3e;d41,d45;d49;d4d;",
    "d50,d53;d57;d62,d65;d80,d81;d84;d97,d99;db2;dbc;dbe,dbf;dc7,dcf;dd2,dd7;ddf,de5;",
    "df0,df1;df5,e00;e31;e34,e3e;e47,e4e;e5c,e80;e83;e85;e8b;ea4;ea6;eb1;eb4,ebc;ebe,ebf;",
    "ec5;ec7,ecf;eda,edb;ee0,eff;f18,f19;f35;f37;f39;f48;f6d,f7e;f80,f84;f86,f87;f8d,fbd;",
    "fc6;fcd;fdb,fff;102d,1030;1032,1037;1039,103a;103d,103e;1058,1059;105e,1060;1071,1074;",
    "1082;1085,1086;108d;109d;10c6;10c8,10cc;10ce,10cf;115f,1160;1249;124e,124f;1257;1259;",
    "125e,125f;1289;128e,128f;12b1;12b6,12b7;12bf;12c1;12c6,12c7;12d7;1311;1316,1317;",
    "135b,135f;137d,137f;139a,139f;13f6,13f7;13fe,13ff;1680;169d,169f;16f9,16ff;1712,171e;",
    "1732,1734;1737,173f;1752,175f;176d;1771,177f;17b4,17b5;17b7,17bd;17c6;17c9,17d3;",
    "17dd,17df;17ea,17ef;17fa,17ff;180b,180f;181a,181f;1879,187f;1885,1886;18a9;18ab,18af;",
    "18f6,18ff;191f,1922;1927,1928;192c,192f;1932;1939,193f;1941,1943;196e,196f;1975,197f;",
    "19ac,19af;19ca,19cf;19db,19dd;1a17,1a18;1a1b,1a1d;1a56;1a58,1a60;1a62;1a65,1a6c;",
    "1a73,1a7f;1a8a,1a8f;1a9a,1a9f;1aae,1b03;1b34,1b3d;1b42,1b44;1b4d;1b6b,1b73;1b80,1b81;",
    "1ba2,1ba5;1ba8,1bad;1be6;1be8,1be9;1bed;1bef,1bfb;1c2c,1c33;1c36,1c3a;1c4a,1c4c;",
    "1c8b,1c8f;1cbb,1cbc;1cc8,1cd2;1cd4,1ce0;1ce2,1ce8;1ced;1cf4;1cf8,1cf9;1cfb,1cff;",
    "1dc0,1dff;1f16,1f17;1f1e,1f1f;1f46,1f47;1f4e,1f4f;1f58;1f5a;1f5c;1f5e;1f7e,1f7f;1fb5;",
    "1fc5;1fd4,1fd5;1fdc;1ff0,1ff1;1ff5;1fff,200f;2028,202f;205f,206f;2072,2073;208f;",
    "209d,209f;20c2,20ff;218c,218f;242a,243f;244b,245f;2b74,2b75;2cef,2cf1;2cf4,2cf8;2d26;",
    "2d28,2d2c;2d2e,2d2f;2d68,2d6e;2d71,2d7f;2d97,2d9f;2da7;2daf;2db7;2dbf;2dc7;2dcf;2dd7;",
    "2ddf,2dff;2e5e,2e7f;2e9a;2ef4,2eff;2fd6,2fef;3000;302a,302f;3040;3097,309a;3100,3104;",
    "3130;3164;318f;31e6,31ee;321f;a48d,a48f;a4c7,a4cf;a62c,a63f;a66f,a672;a674,a67d;",
    "a69e,a69f;a6f0,a6f1;a6f8,a6ff;a7dd,a7f0;a802;a806;a80b;a825,a826;a82c,a82f;a83a,a83f;",
    "a878,a87f;a8c4,a8cd;a8da,a8f1;a8ff;a926,a92d;a947,a951;a953,a95e;a97d,a982;a9b3;",
    "a9b6,a9b9;a9bc,a9bd;a9c0;a9ce;a9da,a9dd;a9e5;a9ff;aa29,aa2e;aa31,aa32;aa35,aa3f;aa43;",
    "aa4c;aa4e,aa4f;aa5a,aa5b;aa7c;aab0;aab2,aab4;aab7,aab8;aabe,aabf;aac1;aac3,aada;",
    "aaec,aaed;aaf6,ab00;ab07,ab08;ab0f,ab10;ab17,ab1f;ab27;ab2f;ab6c,ab6f;abe5;abe8;",
    "abed,abef;abfa,abff;d7a4,d7af;d7c7,d7ca;d7fc,f8ff;fa6e,fa6f;fada,faff;fb07,fb12;",
    "fb18,fb1c;fb1e;fb37;fb3d;fb3f;fb42;fb45;fdd0,fdef;fe00,fe0f;fe1a,fe2f;fe53;fe67;",
    "fe6c,fe6f;fe75;fefd,ff00;ff9e,ffa0;ffbf,ffc1;ffc8,ffc9;ffd0,ffd1;ffd8,ffd9;ffdd,ffdf;",
    "ffe7;ffef,fffb;fffe,ffff;1000c;10027;1003b;1003e;1004e,1004f;1005e,1007f;100fb,100ff;",
    "10103,10106;10134,10136;1018f;1019d,1019f;101a1,101cf;101fd,1027f;1029d,1029f;",
    "102d1,102e0;102fc,102ff;10324,1032c;1034b,1034f;10376,1037f;1039e;103c4,103c7;",
    "103d6,103ff;1049e,1049f;104aa,104af;104d4,104d7;104fc,104ff;10528,1052f;10564,1056e;",
    "1057b;1058b;10593;10596;105a2;105b2;105ba;105bd,105bf;105f4,105ff;10737,1073f;",
    "10756,1075f;10768,1077f;10786;107b1;107bb,107ff;10806,10807;10809;10836;10839,1083b;",
    "1083d,1083e;10856;1089f,108a6;108b0,108df;108f3;108f6,108fa;1091c,1091e;1093a,1093e;",
    "1095a,1097f;109b8,109bb;109d0,109d1;10a01,10a0f;10a14;10a18;10a36,10a3f;10a49,10a4f;",
    "10a59,10a5f;10aa0,10abf;10ae5,10aea;10af7,10aff;10b36,10b38;10b56,10b57;10b73,10b77;",
    "10b92,10b98;10b9d,10ba8;10bb0,10bff;10c49,10c7f;10cb3,10cbf;10cf3,10cf9;10d24,10d2f;",
    "10d3a,10d3f;10d66,10d6d;10d86,10d8d;10d90,10e5f;10e7f;10eaa,10eac;10eae,10eaf;",
    "10eb2,10ec1;10ec8,10ecf;10ed9,10eff;10f28,10f2f;10f46,10f50;10f5a,10f6f;10f82,10f85;",
    "10f8a,10faf;10fcc,10fdf;10ff7,10fff;11001;11038,11046;1104e,11051;11070;11073,11074;",
    "11076,11081;110b3,110b6;110b9,110ba;110bd;110c2,110cf;110e9,110ef;110fa,11102;",
    "11127,1112b;1112d,11135;11148,1114f;11173;11177,11181;111b6,111be;111c0;111c9,111cc;",
    "111cf;111e0;111f5,111ff;11212;1122f,11231;11234,11237;1123e;11241,1127f;11287;11289;",
    "1128e;1129e;112aa,112af;112df;112e3,112ef;112fa,11301;11304;1130d,1130e;11311,11312;",
    "11329;11331;11334;1133a,1133c;1133e;11340;11345,11346;11349,1134a;1134d,1134f;",
    "11351,1135c;11364,1137f;1138a;1138c,1138d;1138f;113b6;113b8;113bb,113c9;113cb;",
    "113ce,113d0;113d2;113d6;113d9,113ff;11438,1143f;11442,11444;11446;1145c;1145e;",
    "11462,1147f;114b0;114b3,114b8;114ba;114bd;114bf,114c0;114c2,114c3;114c8,114cf;",
    "114da,1157f;115af;115b2,115b7;115bc,115bd;115bf,115c0;115dc,115ff;11633,1163a;1163d;",
    "1163f,11640;11645,1164f;1165a,1165f;1166d,1167f;116ab;116ad;116b0,116b7;116ba,116bf;",
    "116ca,116cf;116e4,116ff;1171b,1171d;1171f;11722,11725;11727,1172f;11747,117ff;",
    "1182f,11837;11839,1183a;1183c,1189f;118f3,118fe;11907,11908;1190a,1190b;11914;11917;",
    "11930;11936;11939,1193e;11943;11947,1194f;1195a,1199f;119a8,119a9;119d4,119db;119e0;",
    "119e5,119ff;11a01,11a0a;11a33,11a38;11a3b,11a3e;11a47,11a4f;11a51,11a56;11a59,11a5b;",
    "11a8a,11a96;11a98,11a99;11aa3,11aaf;11af9,11aff;11b0a,11b60;11b62,11b64;11b66;",
    "11b68,11bbf;11be2,11bef;11bfa,11bff;11c09;11c30,11c3d;11c3f;11c46,11c4f;11c6d,11c6f;",
    "11c90,11ca8;11caa,11cb0;11cb2,11cb3;11cb5,11cff;11d07;11d0a;11d31,11d45;11d47,11d4f;",
    "11d5a,11d5f;11d66;11d69;11d8f,11d92;11d95;11d97;11d99,11d9f;11daa,11daf;11ddc,11ddf;",
    "11dea,11edf;11ef3,11ef4;11ef9,11f01;11f11;11f36,11f3d;11f40,11f42;11f5a,11faf;",
    "11fb1,11fbf;11ff2,11ffe;1239a,123ff;1246f;12475,1247f;12544,12f8f;12ff3,12fff;",
    "13430,13440;13447,1345f;143fb,143ff;14647,160ff;1611e,16129;1612d,1612f;1613a,167ff;",
    "16a39,16a3f;16a5f;16a6a,16a6d;16abf;16aca,16acf;16aee,16af4;16af6,16aff;16b30,16b36;",
    "16b46,16b4f;16b5a;16b62;16b78,16b7c;16b90,16d3f;16d7a,16e3f;16e9b,16e9f;16eb9,16eba;",
    "16ed4,16eff;16f4b,16f4f;16f88,16f92;16fa0,16fdf;16fe4,16ff1;16ff7,16fff;18cd6,18cfe;",
    "18d1f,18d7f;18df3,1afef;1aff4;1affc;1afff;1b123,1b131;1b133,1b14f;1b153,1b154;",
    "1b156,1b163;1b168,1b16f;1b2fc,1bbff;1bc6b,1bc6f;1bc7d,1bc7f;1bc89,1bc8f;1bc9a,1bc9b;",
    "1bc9d,1bc9e;1bca0,1cbff;1ccfd,1ccff;1ceb4,1ceb9;1ced1,1cedf;1cef1,1cf4f;1cfc4,1cfff;",
    "1d0f6,1d0ff;1d127,1d128;1d165,1d169;1d16d,1d182;1d185,1d18b;1d1aa,1d1ad;1d1eb,1d1ff;",
    "1d242,1d244;1d246,1d2bf;1d2d4,1d2df;1d2f4,1d2ff;1d357,1d35f;1d379,1d3ff;1d455;1d49d;",
    "1d4a0,1d4a1;1d4a3,1d4a4;1d4a7,1d4a8;1d4ad;1d4ba;1d4bc;1d4c4;1d506;1d50b,1d50c;1d515;",
    "1d51d;1d53a;1d53f;1d545;1d547,1d549;1d551;1d6a6,1d6a7;1d7cc,1d7cd;1da00,1da36;",
    "1da3b,1da6c;1da75;1da84;1da8c,1deff;1df1f,1df24;1df2b,1e02f;1e06e,1e0ff;1e12d,1e136;",
    "1e13e,1e13f;1e14a,1e14d;1e150,1e28f;1e2ae,1e2bf;1e2ec,1e2ef;1e2fa,1e2fe;1e300,1e4cf;",
    "1e4ec,1e4ef;1e4fa,1e5cf;1e5ee,1e5ef;1e5fb,1e5fe;1e600,1e6bf;1e6df;1e6e3;1e6e6;",
    "1e6ee,1e6ef;1e6f5,1e6fd;1e700,1e7df;1e7e7;1e7ec;1e7ef;1e7ff;1e8c5,1e8c6;1e8d0,1e8ff;",
    "1e944,1e94a;1e94c,1e94f;1e95a,1e95d;1e960,1ec70;1ecb5,1ed00;1ed3e,1edff;1ee04;1ee20;",
    "1ee23;1ee25,1ee26;1ee28;1ee33;1ee38;1ee3a;1ee3c,1ee41;1ee43,1ee46;1ee48;1ee4a;1ee4c;",
    "1ee50;1ee53;1ee55,1ee56;1ee58;1ee5a;1ee5c;1ee5e;1ee60;1ee63;1ee65,1ee66;1ee6b;1ee73;",
    "1ee78;1ee7d;1ee7f;1ee8a;1ee9c,1eea0;1eea4;1eeaa;1eebc,1eeef;1eef2,1efff;1f02c,1f02f;",
    "1f094,1f09f;1f0af,1f0b0;1f0c0;1f0d0;1f0f6,1f0ff;1f1ae,1f1e5;1f203,1f20f;1f23c,1f23f;",
    "1f249,1f24f;1f252,1f25f;1f266,1f2ff;1f6d9,1f6db;1f6ed,1f6ef;1f6fd,1f6ff;1f7da,1f7df;",
    "1f7ec,1f7ef;1f7f1,1f7ff;1f80c,1f80f;1f848,1f84f;1f85a,1f85f;1f888,1f88f;1f8ae,1f8af;",
    "1f8bc,1f8bf;1f8c2,1f8cf;1f8d9,1f8ff;1fa58,1fa5f;1fa6e,1fa6f;1fa7d,1fa7f;1fa8b,1fa8d;",
    "1fac7;1fac9,1facc;1fadd,1fade;1faeb,1faee;1faf9,1faff;1fb93;1fbfb,1ffff;2a6e0,2a6ff;",
    "2b81e,2b81f;2ceae,2ceaf;2ebe1,2ebef;2ee5e,2f7ff;2fa1e,2ffff;3134b,3134f;3347a,10ffff;"]

end Covenant.Text.Unicode
