import ConfigLint.Text.Name.Run
/-!
The names of the scripts from hieroglyph controls to musical notation signs.
-/
namespace ConfigLint

def rareNames : List NameRun :=
  [⟨0x13400, ["0EGYPTIAN HIEROGLYPH Z015F;2Z015G;2Z015H;2Z015I;2Z016;2Z016A;2Z016B;2Z016C;2Z016D",
     "2Z016E;2Z016F;2Z016G;2Z016H;2AA001;2AA002;2AA003;2AA004;2AA005;2AA006;2AA007;2AA007A;2AA007B",
     "2AA008;2AA009;2AA010;2AA011;2AA012;2AA013;2AA014;2AA015;2AA016;2AA017;2AA018;2AA019;2AA020",
     "2AA021;2AA022;2AA023;2AA024;2AA025;2AA026;2AA027;2AA028;2AA029;2AA030;2AA031;2AA032"]⟩,
   ⟨0x13430, ["0EGYPTIAN HIEROGLYPH VERTICAL JOINER;2HORIZONTAL JOINER;2INSERT AT TOP START",
     "4BOTTOM START;4TOP END;4BOTTOM END;2OVERLAY MIDDLE;2BEGIN SEGMENT;2END SEGMENT"]⟩,
   ⟨0x14400, ["0ANATOLIAN HIEROGLYPH A001;2A002;2A003;2A004;2A005;2A006;2A007;2A008;2A009;2A010",
     "2A010A;2A011;2A012;2A013;2A014;2A015;2A016;2A017;2A018;2A019;2A020;2A021;2A022;2A023;2A024",
     "2A025;2A026;2A026A;2A027;2A028;2A029;2A030;2A031;2A032;2A033;2A034;2A035;2A036;2A037;2A038",
     "2A039;2A039A;2A040;2A041;2A041A;2A042;2A043;2A044;2A045;2A045A;2A046;2A046A;2A046B;2A047",
     "2A048;2A049;2A050;2A051;2A052;2A053;2A054;2A055;2A056;2A057;2A058;2A059;2A060;2A061;2A062",
     "2A063;2A064;2A065;2A066;2A066A;2A066B;2A066C;2A067;2A068;2A069;2A070;2A071;2A072;2A073;2A074",
     "2A075;2A076;2A077;2A078;2A079;2A080;2A081;2A082;2A083;2A084;2A085;2A086;2A087;2A088;2A089",
     "2A090;2A091;2A092;2A093;2A094;2A095;2A096;2A097;2A097A;2A098;2A098A;2A099;2A100;2A100A;2A101",
     "2A101A;2A102;2A102A;2A103;2A104;2A104A;2A104B;2A104C;2A105;2A105A;2A105B;2A106;2A107;2A107A",
     "2A107B;2A107C;2A108;2A109;2A110;2A110A;2A110B;2A111;2A112;2A113;2A114;2A115;2A115A;2A116",
     "2A117;2A118;2A119;2A120;2A121;2A122;2A123;2A124;2A125;2A125A;2A126;2A127;2A128;2A129;2A130",
     "2A131;2A132;2A133;2A134;2A135;2A135A;2A136;2A137;2A138;2A139;2A140;2A141;2A142;2A143;2A144",
     "2A145;2A146;2A147;2A148;2A149;2A150;2A151;2A152;2A153;2A154;2A155;2A156;2A157;2A158;2A159",
     "2A160;2A161;2A162;2A163;2A164;2A165;2A166;2A167;2A168;2A169;2A170;2A171;2A172;2A173;2A174",
     "2A175;2A176;2A177;2A178;2A179;2A180;2A181;2A182;2A183;2A184;2A185;2A186;2A187;2A188;2A189",
     "2A190;2A191;2A192;2A193;2A194;2A195;2A196;2A197;2A198;2A199;2A200;2A201;2A202;2A202A;2A202B",
     "2A203;2A204;2A205;2A206;2A207;2A207A;2A208;2A209;2A209A;2A210;2A211;2A212;2A213;2A214;2A215",
     "2A215A;2A216;2A216A;2A217;2A218;2A219;2A220;2A221;2A222;2A223;2A224;2A225;2A226;2A227;2A227A",
     "2A228;2A229;2A230;2A231;2A232;2A233;2A234;2A235;2A236;2A237;2A238;2A239;2A240;2A241;2A242",
     "2A243;2A244;2A245;2A246;2A247;2A248;2A249;2A250;2A251;2A252;2A253;2A254;2A255;2A256;2A257",
     "2A258;2A259;2A260;2A261;2A262;2A263;2A264;2A265;2A266;2A267;2A267A;2A268;2A269;2A270;2A271",
     "2A272;2A273;2A274;2A275;2A276;2A277;2A278;2A279;2A280;2A281;2A282;2A283;2A284;2A285;2A286",
     "2A287;2A288;2A289;2A289A;2A290;2A291;2A292;2A293;2A294;2A294A;2A295;2A296;2A297;2A298;2A299",
     "2A299A;2A300;2A301;2A302;2A303;2A304;2A305;2A306;2A307;2A308;2A309;2A309A;2A310;2A311;2A312",
     "2A313;2A314;2A315;2A316;2A317;2A318;2A319;2A320;2A321;2A322;2A323;2A324;2A325;2A326;2A327",
     "2A328;2A329;2A329A;2A330;2A331;2A332A;2A332B;2A332C;2A333;2A334;2A335;2A336;2A336A;2A336B",
     "2A336C;2A337;2A338;2A339;2A340;2A341;2A342;2A343;2A344;2A345;2A346;2A347;2A348;2A349;2A350",
     "2A351;2A352;2A353;2A354;2A355;2A356;2A357;2A358;2A359;2A359A;2A360;2A361;2A362;2A363;2A364",
     "2A364A;2A365;2A366;2A367;2A368;2A368A;2A369;2A370;2A371;2A371A;2A372;2A373;2A374;2A375;2A376",
     "2A377;2A378;2A379;2A380;2A381;2A381A;2A382;2A383 RA OR RI;2A383A;2A384;2A385;2A386;2A386A",
     "2A387;2A388;2A389;2A390;2A391;2A392;2A393 EIGHT;2A394;2A395;2A396;2A397;2A398;2A399;2A400",
     "2A401;2A402;2A403;2A404;2A405;2A406;2A407;2A408;2A409;2A410 BEGIN LOGOGRAM MARK",
     "2A410A END LOGOGRAM MARK;2A411;2A412;2A413;2A414;2A415;2A416;2A417;2A418;2A419;2A420;2A421",
     "2A422;2A423;2A424;2A425;2A426;2A427;2A428;2A429;2A430;2A431;2A432;2A433;2A434;2A435;2A436",
     "2A437;2A438;2A439;2A440;2A441;2A442;2A443;2A444;2A445;2A446;2A447;2A448;2A449;2A450;2A450A",
     "2A451;2A452;2A453;2A454;2A455;2A456;2A457;2A457A;2A458;2A459;2A460;2A461;2A462;2A463;2A464",
     "2A465;2A466;2A467;2A468;2A469;2A470;2A471;2A472;2A473;2A474;2A475;2A476;2A477;2A478;2A479",
     "2A480;2A481;2A482;2A483;2A484;2A485;2A486;2A487;2A488;2A489;2A490;2A491;2A492;2A493;2A494",
     "2A495;2A496;2A497;2A501;2A502;2A503;2A504;2A505;2A506;2A507;2A508;2A509;2A510;2A511;2A512",
     "2A513;2A514;2A515;2A516;2A517;2A518;2A519;2A520;2A521;2A522;2A523;2A524;2A525;2A526;2A527",
     "2A528;2A529;2A530"]⟩,
   ⟨0x16800, ["0BAMUM LETTER PHASE-A NGKUE MFON;3GBIEE FON;3PON MFON PIPAEMGBIEE;5PIPAEMBA",
     "3NAA MFON;3SHUENSHUET;3TITA MFON;3NZA MFON;3SHINDA PA NJI;3PON PA NJI PIPAEMGBIEE;6PIPAEMBA",
     "3MAEMBGBIEE;3TU MAEMBA;3NGANGU;3MAEMVEUX;3MANSUAE;3MVEUAENGAM;3SEUNYAM;3NTOQPEN;3KEUKEUTNDA",
     "3NKINDI;3SUU;3NGKUENZEUM;3LAPAQ;3LET KUT;3NTAP MFAA;3MAEKEUP;3PASHAE;3GHEUAERAE;3PAMSHAE",
     "3MON NGGEUAET;3NZUN MEUT;3U YUQ NAE;3GHEUAEGHEUAE;3NTAP NTAA;3SISA;3MGBASA;3MEUNJOMNDEUQ",
     "3MOOMPUQ;3KAFA;3PA LEERAEWA;3NDA LEERAEWA;3PET;3MAEMKPEN;3NIKA;3PUP;3TUAEP;3LUAEP;3SONJAM",
     "3TEUTEUWEN;3MAENYI;3KET;3NDAANGGEUAET;3KUOQ;3MOOMEUT;3SHUM;3LOMMAE;3FIRI;3ROM;3KPOQ;3SOQ",
     "3MAP PIEET;3SHIRAE;3NTAP;3SHOQ NSHUT YUM;3NYIT MONGKEUAEQ;3PAARAE;3NKAARAE;3UNKNOWN;3NGGEN",
     "3MAESI;3NJAM;3MBANYI;3NYET;3TEUAEN;3SOT;3PAAM;3NSHIEE;3MAEM;3NYI;3KAQ;3NSHA;3VEE;3LU;3NEN",
     "3NAQ;3MBAQ;2PHASE-B NSHUET;3TU MAEMGBIEE;3SIEE;3SET TU;3LOM NTEUM;3MBA MAELEE;3KIEEM;3YEURAE",
     "3MBAARAE;3KAM;3PEESHI;3YAFU LEERAEWA;3LAM NSHUT NYAM;3NTIEE SHEUOQ;3NDU NJAA;3GHEUGHEUAEM",
     "3PIT;3TU NSIEE;3SHET NJAQ;3SHEUAEQTU;3MFON TEUAEQ;3MBIT MBAAKET;3NYI NTEUM;3KEUPUQ;3GHEUGHEN",
     "3KEUYEUX;3LAANAE;3PARUM;3VEUM;3NGKINDI MVOP;3NGGEU MBU;3WUAET;3SAKEUAE;3TAAM;3MEUQ;3NGGUOQ",
     "4LARGE;3MFIYAQ;3SUE;3MBEURI;3MONTIEEN;3NYAEMAE;3PUNGAAM;3MEUT NGGEET;3FEUX;3MBUOQ;3FEE",
     "3KEUAEM;3MA NJEUAENA;4NJUQA;3LET;3NGGAAM;3NSEN;3MA;3KIQ;3NGOM;2PHASE-C NGKUE MAEMBA;3NZA",
     "3YUM",
     "3WANGKUOQ;3NGGEN;3NDEUAEREE;3NGKAQ;3GHARAE;3MBEEKEET;3GBAYI;3NYIR MKPARAQ MEUN;3NTU MBIT",
     "3MBEUM;3PIRIEEN;3NDOMBU;3MBAA CABBAGE-TREE;3KEUSHEUAEP;3GHAP;3KEUKAQ;3YU MUOMAE;3NZEUM;3MBUE",
     "3NSEUAEN;3MBIT;3YEUQ;3KPARAQ;3KAA;3SEUX;3NDIDA;3TAASHAE;3NJUEQ;3TITA YUE;3SUAET",
     "3NGGUAEN NYAM",
     "3VEUX;3NANSANAQ;3MA KEUAERI;3NTAA;3NGGUON;3LAP;3MBIRIEEN;3MGBASAQ;3NTEUNGBA;3TEUTEUX;3NGGUM",
     "3FUE;3NDEUT;3NSA;3NSHAQ;3BUNG;3VEUAEPEN;3MBERAE;3RU;3NJAEM;3LAM;3TITUAEP;3NSUOT NGOM;3NJEEEE",
     "3KET;3NGGU;3MAESI;3MBUAEM;3LU;3KUT;3NJAM;3NGOM;3WUP;3NGGUEET;3NSOM;3NTEN;3KUOP NKAARAE;3NSUN",
     "3NDAM;3MA NSIEE;3YAA;3NDAP;3SHUEQ;3SETFON;3MBI;3MAEMBA;3MBANYI;3KEUSEUX;3MBEUX;3KEUM",
     "3MBAA PICKET;3YUWOQ;3NJEUX;3MIEE;3MUAE;3SHIQ;3KEN LAW;4FATIGUE;3NGAQ;3NAQ;3LIQ;3PIN;3PEN",
     "3TET",
     "2PHASE-D MBUO;3WAP;3NJI;3MFON;3NJIEE;3LIEE;3NJEUT;3NSHEE;3NGGAAMAE;3NYAM;3WUAEN;3NGKUN;3SHEE",
     "3NGKAP;3KEUAETMEUN;3TEUT;3SHEUAE;3NJAP;3SUE;3KET;3YAEMMAE;3KUOM;3SAP;3MFEUT;3NDEUX;3MALEERI",
     "3MEUT;3SEUAEQ;3YEN;3NJEUAEM;3KEUOT MBUAE;3NGKEURI;3TU;3GHAA;3NGKYEE;3FEUFEUAET;3NDEE",
     "3MGBOFUM",
     "3LEUAEP;3NDON;3MONI;3MGBEUN;3PUUT;3MGBIEE;3MFO;3LUM;3NSIEEP;3MBAA;3KWAET;3NYET;3TEUAEN;3SOT",
     "3YUWOQ;3KEUM;3RAEM;3TEEEE;3NGKEUAEQ;3MFEUAE;3NSIEET;3KEUP;3PIP;3PEUTAE;3NYUE;3LET;3NGGAAM",
     "3MFIEE;3NGGWAEN;3YUOM;3PAP;3YUOP;3NDAM;3NTEUM;3SUAE;3KUN;3NGGEUX;3NGKIEE;3TUOT;3MEUN;3KUQ",
     "3NSUM;3TEUN;3MAENJET;3NGGAP;3LEUM;3NGGUOM;3NSHUT;3NJUEQ;3GHEUAE;3KU;3REN OLD;3TAE;3TOQ;3NYI",
     "3RII;3LEEEE;3MEEEE;3M;3SUU;3MU;3SHII;3SHEUX;3KYEE;3NU;3SHU;3NTEE;3PEE;3NI;3SHOQ;3PUQ;3MVOP",
     "3LOQ;3REN MUCH;3TI;3NTUU;3MBAA SEVEN;3SAQ;3FAA;2PHASE-E NDAP;3TOON;3MBEUM;3LAP;3VOM;3LOON",
     "3PAA;3SOM;3RAQ;3NSHUOP;3NDUN;3PUAE;3TAM;3NGKA;3KPEUX;3WUO;3SEE;3NGGEUAET;3PAAM;3TOO;3KUOP",
     "3LOM;3NSHIEE;3NGOP;3MAEM;3NGKEUX;3NGOQ;3NSHUE;3RIMGBA;3NJEUX;3PEEM;3SAA;3NGGURAE;3MGBA",
     "3GHEUX",
     "3NGKEUAEM;3NJAEMLI;3MAP;3LOOT;3NGGEEEE;3NDIQ;3TAEN NTEUM;3SET;3PUM;3NDAA SOFTNESS",
     "3NGGUAESHAE NYAM;3YIEE;3GHEUN;3TUAE;3YEUAE;3PO;3TUMAE;3KEUAE;3SUAEN;3TEUAEQ;3VEUAE;3WEUX",
     "3LAAM;3PU;3TAAQ;3GHAAMAE;3NGEUREUT;3SHEUAEQ;3MGBEN;3MBEE;3NZAQ;3NKOM;3GBET;3TUM;3KUET;3YAP",
     "3NYI CLEAVER;3YIT;3MFEUQ;3NDIAQ;3PIEEQ;3YUEQ;3LEUAEM;3FUE;3GBEUX;3NGKUP;3KET;3MAE;3NGKAAMI",
     "3GHET;3FA;3NTUM;3PEUT;3YEUM;3NGGEUAE;3NYI BETWEEN;3NZUQ;3POON;3MIEE;3FUET;3NAE;3MUAE;3GHEUAE",
     "3FU I;3MVI;3PUAQ;3NGKUM;3KUT;3PIET;3NTAP;3YEUAET;3NGGUP;3PA PEOPLE;3FU CALL;3FOM;3NJEE;3A",
     "3TOQ;3O;3I;3LAQ;3PA PLURAL;3TAA;3TAQ;3NDAA MY HOUSE;3SHIQ;3YEUX;3NGUAE;3YUAEN;3YOQ SWIMMING",
     "4COVER;3YUQ;3YUN;3KEUX;3PEUX;3NJEE EPOCH;3PUE;3WUE;3FEE;3VEE;3LU;3MI;3REUX;3RAE;3NGUAET;3NGA",
     "3SHO;3SHOQ;3FU REMEDY;3NA;3PI;3LOQ;3KO;3MEN;3MA;3MAQ;3TEU;3KI;3MON;3TEN;3FAQ;3GHOM",
     "2PHASE-F KA;3U;3KU;3EE;3REE;3TAE;3NYI;3LA;3RII;3RIEE;3MEEEE;3TAA;3NDAA;3NJAEM;3M;3SUU;3SHII",
     "3SI;3SEUX;3KYEE;3KET;3NUAE;3NU;3NJUAE;3YOQ;3SHU;3YA;3NSHA;3PEUX;3NTEE;3WUE;3PEE;3RU;3NI",
     "3REUX",
     "3KEN;3NGKWAEN;3NGGA;3SHO;3PUAE;3FOM;3WA;3LI;3LOQ;3KO;3MBEN;3REN;3MA;3MO;3MBAA;3TET;3KPA",
     "3SAMBA;3VUEQ"]⟩,
   ⟨0x16A40, ["0MRO LETTER TA;2NGI;2YO;2MIM;2BA;2DA;2A;2PHI;2KHAI;2HAO;2DAI;2CHU;2KEAAE;2OL;2MAEM",
     "2NIN;2PA;2OO;2O;2RO;2SHI;2THEA;2EA;2WA;2E;2KO;2LAN;2LA;2HAI;2RI;2TEK"]⟩,
   ⟨0x16A60, ["0MRO DIGIT ZERO;2ONE;2TWO;2THREE;2FOUR;2FIVE;2SIX;2SEVEN;2EIGHT;2NINE"]⟩,
   ⟨0x16A6E, ["0MRO DANDA;1DOUBLE DANDA;0TANGSA LETTER OZ;2OC;2OQ;2OX;2AZ;2AC;2AQ;2AX;2VZ;2VC;2VQ",
     "2VX;2EZ;2EC;2EQ;2EX;2IZ;2IC;2IQ;2IX;2UZ;2UC;2UQ;2UX;2AWZ;2AWC;2AWQ;2AWX;2UIZ;2UIC;2UIQ;2UIX",
     "2FINAL NG;2LONG UEX;2SHORT UEZ;3AWX;2UEC;2UEZ;2UEQ;2UEX;2UIUZ;2UIUC;2UIUQ;2UIUX;2MZ;2MC;2MQ",
     "2MX;2KA;2KHA;2GA;2NGA;2SA;2YA;2WA;2PA;2NYA;2PHA;2BA;2MA;2NA;2HA;2LA;2HTA;2TA;2DA;2RA;2NHA",
     "2SHA;2CA;2TSA;2GHA;2HTTA;2THA;2XA;2FA;2DHA;2CHA;2ZA"]⟩,
   ⟨0x16AC0, ["0TANGSA DIGIT ZERO;2ONE;2TWO;2THREE;2FOUR;2FIVE;2SIX;2SEVEN;2EIGHT;2NINE"]⟩,
   ⟨0x16AD0, ["0BASSA VAH LETTER ENNI;3KA;3SE;3FA;3MBE;3YIE;3GAH;3DHII;3KPAH;3JO;3HWAH;3WA;3ZO",
     "3GBU",
     "3DO;3CE;3UWU;3TO;3BA;3VU;3YEIN;3PA;3WADDA;3A;3O;3OO;3U;3EE;3E;3I"]⟩,
   ⟨0x16AF0, ["0BASSA VAH COMBINING HIGH TONE;3LOW TONE;3MID TONE;3LOW-MID TONE;3HIGH-LOW TONE",
     "2FULL STOP"]⟩,
   ⟨0x16B00, ["0PAHAWH HMONG VOWEL KEEB;3KEEV;3KIB;3KIV;3KAUB;3KAUV;3KUB;3KUV;3KEB;3KEV;3KAIB",
     "3KAIV",
     "3KOOB;3KOOV;3KAWB;3KAWV;3KUAB;3KUAV;3KOB;3KOV;3KIAB;3KIAV;3KAB;3KAV;3KWB;3KWV;3KAAB;3KAAV",
     "2CONSONANT VAU;3NTSAU;3LAU;3HAU;3NLAU;3RAU;3NKAU;3QHAU;3YAU;3HLAU;3MAU;3CHAU;3NCHAU;3HNAU",
     "3PLHAU;3NTHAU;3NAU;3AU;3XAU;3CAU;2MARK CIM TUB;4SO;4KES;4KHAV;4SUAM;4HOM;4TAUM",
     "2SIGN VOS THOM",
     "4TSHAB CEEB;3CIM CHEEM;3VOS THIAB;4FEEM;3XYEEM NTXIV;4RHO;4TOV;4FAIB;3VOS SEEV;3MEEJ SUAB",
     "3VOS NRUA;3IB YAM;3XAUS;3CIM TSOV ROG"]⟩,
   ⟨0x16B50, ["0PAHAWH HMONG DIGIT ZERO;3ONE;3TWO;3THREE;3FOUR;3FIVE;3SIX;3SEVEN;3EIGHT;3NINE"]⟩,
   ⟨0x16B5B, ["0PAHAWH HMONG NUMBER TENS;3HUNDREDS;3TEN THOUSANDS;3MILLIONS;3HUNDRED MILLIONS",
     "3TEN BILLIONS;3TRILLIONS"]⟩,
   ⟨0x16B63, ["0PAHAWH HMONG SIGN VOS LUB;3XYOO;3HLI;3THIRD-STAGE HLI;3ZWJ THAJ;3HNUB;3NQIG;3XIAB",
     "3NTUJ;3AV;3TXHEEJ CEEV;3MEEJ TSEEB;3TAU;3LOS;3MUS;3CIM HAIS LUS NTOG NTOG;4CUAM TSHOOJ;4TXWV",
     "5CHWV;4PUB DAWB;4NRES TOS"]⟩,
   ⟨0x16B7D, ["0PAHAWH HMONG CLAN SIGN TSHEEJ;4YEEG;4LIS;4LAUJ;4XYOOJ;4KOO;4HAWJ;4MUAS;4THOJ;4TSAB",
     "4PHAB;4KHAB;4HAM;4VAJ;4FAJ;4YAJ;4TSWB;4KWM;4VWJ"]⟩,
   ⟨0x16E40, ["0MEDEFAIDRIN CAPITAL LETTER M;3S;3V;3W;3ATIU;3Z;3KP;3P;3T;3G;3F;3I;3K;3A;3J;3E;3B",
     "3C",
     "3U;3YU;3L;3Q;3HP;3NY;3X;3D;3OE;3N;3R;3O;3AI;3Y;1SMALL LETTER M;3S;3V;3W;3ATIU;3Z;3KP;3P;3T",
     "3G",
     "3F;3I;3K;3A;3J;3E;3B;3C;3U;3YU;3L;3Q;3HP;3NY;3X;3D;3OE;3N;3R;3O;3AI;3Y;1DIGIT ZERO;2ONE;2TWO",
     "2THREE;2FOUR;2FIVE;2SIX;2SEVEN;2EIGHT;2NINE;1NUMBER TEN;2ELEVEN;2TWELVE;2THIRTEEN;2FOURTEEN",
     "2FIFTEEN;2SIXTEEN;2SEVENTEEN;2EIGHTEEN;2NINETEEN;1DIGIT ONE ALTERNATE FORM",
     "2TWO ALTERNATE FORM;2THREE ALTERNATE FORM;1COMMA;1FULL STOP;1SYMBOL AIVA;1EXCLAMATION OH"]⟩,
   ⟨0x16F00, ["0MIAO LETTER PA;2BA;2YI PA;2PLA;2MA;2MHA;2ARCHAIC MA;2FA;2VA;2VFA;2TA;2DA;2YI TTA",
     "3TA;2TTA;2DDA;2NA;2NHA;2YI NNA;2ARCHAIC NA;2NNA;2NNHA;2LA;2LYA;2LHA;2LHYA;2TLHA;2DLHA;2TLHYA",
     "2DLHYA;2KA;2GA;2YI KA;2QA;2QGA;2NGA;2NGHA;2ARCHAIC NGA;2HA;2XA;2GHA;2GHHA;2TSSA;2DZZA;2NYA",
     "2NYHA;2TSHA;2DZHA;2YI TSHA;3DZHA;2REFORMED TSHA;2SHA;2SSA;2ZHA;2ZSHA;2TSA;2DZA;2YI TSA;2SA",
     "2ZA;2ZSA;2ZZA;2ZZSA;2ARCHAIC ZZA;2ZZYA;2ZZSYA;2WA;2AH;2HHA;2BRI;2SYI;2DZYI;2TE;2TSE;2RTE"]⟩,
   ⟨0x16F4F, ["0MIAO SIGN CONSONANT MODIFIER BAR;1LETTER NASALIZATION;1SIGN ASPIRATION",
     "2REFORMED VOICING;3ASPIRATION;1VOWEL SIGN A;3AA;3AHH;3AN;3ANG;3O;3OO;3WO;3W;3E;3EN;3ENG;3OEY",
     "3I;3IA;3IAN;3IANG;3IO;3IE;3II;3IU;3ING;3U;3UA;3UAN;3UANG;3UU;3UEI;3UNG;3Y;3YI;3AE;3AEE;3ERR",
     "3ROUNDED ERR;3ER;3ROUNDED ER;3AI;3EI;3AU;3OU;3N;3NG;3UOG;3YUI;3OG;3OER;3VW;3IG;3EA;3IONG",
     "3UI"]⟩,
   ⟨0x16F8F, ["0MIAO TONE RIGHT;2TOP RIGHT;2ABOVE;2BELOW;1LETTER TONE-2;2TONE-3;2TONE-4;2TONE-5",
     "2TONE-6;2TONE-7;2TONE-8;2REFORMED TONE-1;3TONE-2;3TONE-4;3TONE-5;3TONE-6;3TONE-8"]⟩,
   ⟨0x16FE0, ["0TANGUT ITERATION MARK;0NUSHU ITERATION MARK;0OLD CHINESE HOOK MARK;2ITERATION MARK",
     "0KHITAN SMALL SCRIPT FILLER"]⟩,
   ⟨0x16FF0, ["0VIETNAMESE ALTERNATE READING MARK CA;4NHAY"]⟩,
   ⟨0x18800, ["0TANGUT COMPONENT-001;1COMPONENT-002;1COMPONENT-003;1COMPONENT-004;1COMPONENT-005",
     "1COMPONENT-006;1COMPONENT-007;1COMPONENT-008;1COMPONENT-009;1COMPONENT-010;1COMPONENT-011",
     "1COMPONENT-012;1COMPONENT-013;1COMPONENT-014;1COMPONENT-015;1COMPONENT-016;1COMPONENT-017",
     "1COMPONENT-018;1COMPONENT-019;1COMPONENT-020;1COMPONENT-021;1COMPONENT-022;1COMPONENT-023",
     "1COMPONENT-024;1COMPONENT-025;1COMPONENT-026;1COMPONENT-027;1COMPONENT-028;1COMPONENT-029",
     "1COMPONENT-030;1COMPONENT-031;1COMPONENT-032;1COMPONENT-033;1COMPONENT-034;1COMPONENT-035",
     "1COMPONENT-036;1COMPONENT-037;1COMPONENT-038;1COMPONENT-039;1COMPONENT-040;1COMPONENT-041",
     "1COMPONENT-042;1COMPONENT-043;1COMPONENT-044;1COMPONENT-045;1COMPONENT-046;1COMPONENT-047",
     "1COMPONENT-048;1COMPONENT-049;1COMPONENT-050;1COMPONENT-051;1COMPONENT-052;1COMPONENT-053",
     "1COMPONENT-054;1COMPONENT-055;1COMPONENT-056;1COMPONENT-057;1COMPONENT-058;1COMPONENT-059",
     "1COMPONENT-060;1COMPONENT-061;1COMPONENT-062;1COMPONENT-063;1COMPONENT-064;1COMPONENT-065",
     "1COMPONENT-066;1COMPONENT-067;1COMPONENT-068;1COMPONENT-069;1COMPONENT-070;1COMPONENT-071",
     "1COMPONENT-072;1COMPONENT-073;1COMPONENT-074;1COMPONENT-075;1COMPONENT-076;1COMPONENT-077",
     "1COMPONENT-078;1COMPONENT-079;1COMPONENT-080;1COMPONENT-081;1COMPONENT-082;1COMPONENT-083",
     "1COMPONENT-084;1COMPONENT-085;1COMPONENT-086;1COMPONENT-087;1COMPONENT-088;1COMPONENT-089",
     "1COMPONENT-090;1COMPONENT-091;1COMPONENT-092;1COMPONENT-093;1COMPONENT-094;1COMPONENT-095",
     "1COMPONENT-096;1COMPONENT-097;1COMPONENT-098;1COMPONENT-099;1COMPONENT-100;1COMPONENT-101",
     "1COMPONENT-102;1COMPONENT-103;1COMPONENT-104;1COMPONENT-105;1COMPONENT-106;1COMPONENT-107",
     "1COMPONENT-108;1COMPONENT-109;1COMPONENT-110;1COMPONENT-111;1COMPONENT-112;1COMPONENT-113",
     "1COMPONENT-114;1COMPONENT-115;1COMPONENT-116;1COMPONENT-117;1COMPONENT-118;1COMPONENT-119",
     "1COMPONENT-120;1COMPONENT-121;1COMPONENT-122;1COMPONENT-123;1COMPONENT-124;1COMPONENT-125",
     "1COMPONENT-126;1COMPONENT-127;1COMPONENT-128;1COMPONENT-129;1COMPONENT-130;1COMPONENT-131",
     "1COMPONENT-132;1COMPONENT-133;1COMPONENT-134;1COMPONENT-135;1COMPONENT-136;1COMPONENT-137",
     "1COMPONENT-138;1COMPONENT-139;1COMPONENT-140;1COMPONENT-141;1COMPONENT-142;1COMPONENT-143",
     "1COMPONENT-144;1COMPONENT-145;1COMPONENT-146;1COMPONENT-147;1COMPONENT-148;1COMPONENT-149",
     "1COMPONENT-150;1COMPONENT-151;1COMPONENT-152;1COMPONENT-153;1COMPONENT-154;1COMPONENT-155",
     "1COMPONENT-156;1COMPONENT-157;1COMPONENT-158;1COMPONENT-159;1COMPONENT-160;1COMPONENT-161",
     "1COMPONENT-162;1COMPONENT-163;1COMPONENT-164;1COMPONENT-165;1COMPONENT-166;1COMPONENT-167",
     "1COMPONENT-168;1COMPONENT-169;1COMPONENT-170;1COMPONENT-171;1COMPONENT-172;1COMPONENT-173",
     "1COMPONENT-174;1COMPONENT-175;1COMPONENT-176;1COMPONENT-177;1COMPONENT-178;1COMPONENT-179",
     "1COMPONENT-180;1COMPONENT-181;1COMPONENT-182;1COMPONENT-183;1COMPONENT-184;1COMPONENT-185",
     "1COMPONENT-186;1COMPONENT-187;1COMPONENT-188;1COMPONENT-189;1COMPONENT-190;1COMPONENT-191",
     "1COMPONENT-192;1COMPONENT-193;1COMPONENT-194;1COMPONENT-195;1COMPONENT-196;1COMPONENT-197",
     "1COMPONENT-198;1COMPONENT-199;1COMPONENT-200;1COMPONENT-201;1COMPONENT-202;1COMPONENT-203",
     "1COMPONENT-204;1COMPONENT-205;1COMPONENT-206;1COMPONENT-207;1COMPONENT-208;1COMPONENT-209",
     "1COMPONENT-210;1COMPONENT-211;1COMPONENT-212;1COMPONENT-213;1COMPONENT-214;1COMPONENT-215",
     "1COMPONENT-216;1COMPONENT-217;1COMPONENT-218;1COMPONENT-219;1COMPONENT-220;1COMPONENT-221",
     "1COMPONENT-222;1COMPONENT-223;1COMPONENT-224;1COMPONENT-225;1COMPONENT-226;1COMPONENT-227",
     "1COMPONENT-228;1COMPONENT-229;1COMPONENT-230;1COMPONENT-231;1COMPONENT-232;1COMPONENT-233",
     "1COMPONENT-234;1COMPONENT-235;1COMPONENT-236;1COMPONENT-237;1COMPONENT-238;1COMPONENT-239",
     "1COMPONENT-240;1COMPONENT-241;1COMPONENT-242;1COMPONENT-243;1COMPONENT-244;1COMPONENT-245",
     "1COMPONENT-246;1COMPONENT-247;1COMPONENT-248;1COMPONENT-249;1COMPONENT-250;1COMPONENT-251",
     "1COMPONENT-252;1COMPONENT-253;1COMPONENT-254;1COMPONENT-255;1COMPONENT-256;1COMPONENT-257",
     "1COMPONENT-258;1COMPONENT-259;1COMPONENT-260;1COMPONENT-261;1COMPONENT-262;1COMPONENT-263",
     "1COMPONENT-264;1COMPONENT-265;1COMPONENT-266;1COMPONENT-267;1COMPONENT-268;1COMPONENT-269",
     "1COMPONENT-270;1COMPONENT-271;1COMPONENT-272;1COMPONENT-273;1COMPONENT-274;1COMPONENT-275",
     "1COMPONENT-276;1COMPONENT-277;1COMPONENT-278;1COMPONENT-279;1COMPONENT-280;1COMPONENT-281",
     "1COMPONENT-282;1COMPONENT-283;1COMPONENT-284;1COMPONENT-285;1COMPONENT-286;1COMPONENT-287",
     "1COMPONENT-288;1COMPONENT-289;1COMPONENT-290;1COMPONENT-291;1COMPONENT-292;1COMPONENT-293",
     "1COMPONENT-294;1COMPONENT-295;1COMPONENT-296;1COMPONENT-297;1COMPONENT-298;1COMPONENT-299",
     "1COMPONENT-300;1COMPONENT-301;1COMPONENT-302;1COMPONENT-303;1COMPONENT-304;1COMPONENT-305",
     "1COMPONENT-306;1COMPONENT-307;1COMPONENT-308;1COMPONENT-309;1COMPONENT-310;1COMPONENT-311",
     "1COMPONENT-312;1COMPONENT-313;1COMPONENT-314;1COMPONENT-315;1COMPONENT-316;1COMPONENT-317",
     "1COMPONENT-318;1COMPONENT-319;1COMPONENT-320;1COMPONENT-321;1COMPONENT-322;1COMPONENT-323",
     "1COMPONENT-324;1COMPONENT-325;1COMPONENT-326;1COMPONENT-327;1COMPONENT-328;1COMPONENT-329",
     "1COMPONENT-330;1COMPONENT-331;1COMPONENT-332;1COMPONENT-333;1COMPONENT-334;1COMPONENT-335",
     "1COMPONENT-336;1COMPONENT-337;1COMPONENT-338;1COMPONENT-339;1COMPONENT-340;1COMPONENT-341",
     "1COMPONENT-342;1COMPONENT-343;1COMPONENT-344;1COMPONENT-345;1COMPONENT-346;1COMPONENT-347",
     "1COMPONENT-348;1COMPONENT-349;1COMPONENT-350;1COMPONENT-351;1COMPONENT-352;1COMPONENT-353",
     "1COMPONENT-354;1COMPONENT-355;1COMPONENT-356;1COMPONENT-357;1COMPONENT-358;1COMPONENT-359",
     "1COMPONENT-360;1COMPONENT-361;1COMPONENT-362;1COMPONENT-363;1COMPONENT-364;1COMPONENT-365",
     "1COMPONENT-366;1COMPONENT-367;1COMPONENT-368;1COMPONENT-369;1COMPONENT-370;1COMPONENT-371",
     "1COMPONENT-372;1COMPONENT-373;1COMPONENT-374;1COMPONENT-375;1COMPONENT-376;1COMPONENT-377",
     "1COMPONENT-378;1COMPONENT-379;1COMPONENT-380;1COMPONENT-381;1COMPONENT-382;1COMPONENT-383",
     "1COMPONENT-384;1COMPONENT-385;1COMPONENT-386;1COMPONENT-387;1COMPONENT-388;1COMPONENT-389",
     "1COMPONENT-390;1COMPONENT-391;1COMPONENT-392;1COMPONENT-393;1COMPONENT-394;1COMPONENT-395",
     "1COMPONENT-396;1COMPONENT-397;1COMPONENT-398;1COMPONENT-399;1COMPONENT-400;1COMPONENT-401",
     "1COMPONENT-402;1COMPONENT-403;1COMPONENT-404;1COMPONENT-405;1COMPONENT-406;1COMPONENT-407",
     "1COMPONENT-408;1COMPONENT-409;1COMPONENT-410;1COMPONENT-411;1COMPONENT-412;1COMPONENT-413",
     "1COMPONENT-414;1COMPONENT-415;1COMPONENT-416;1COMPONENT-417;1COMPONENT-418;1COMPONENT-419",
     "1COMPONENT-420;1COMPONENT-421;1COMPONENT-422;1COMPONENT-423;1COMPONENT-424;1COMPONENT-425",
     "1COMPONENT-426;1COMPONENT-427;1COMPONENT-428;1COMPONENT-429;1COMPONENT-430;1COMPONENT-431",
     "1COMPONENT-432;1COMPONENT-433;1COMPONENT-434;1COMPONENT-435;1COMPONENT-436;1COMPONENT-437",
     "1COMPONENT-438;1COMPONENT-439;1COMPONENT-440;1COMPONENT-441;1COMPONENT-442;1COMPONENT-443",
     "1COMPONENT-444;1COMPONENT-445;1COMPONENT-446;1COMPONENT-447;1COMPONENT-448;1COMPONENT-449",
     "1COMPONENT-450;1COMPONENT-451;1COMPONENT-452;1COMPONENT-453;1COMPONENT-454;1COMPONENT-455",
     "1COMPONENT-456;1COMPONENT-457;1COMPONENT-458;1COMPONENT-459;1COMPONENT-460;1COMPONENT-461",
     "1COMPONENT-462;1COMPONENT-463;1COMPONENT-464;1COMPONENT-465;1COMPONENT-466;1COMPONENT-467",
     "1COMPONENT-468;1COMPONENT-469;1COMPONENT-470;1COMPONENT-471;1COMPONENT-472;1COMPONENT-473",
     "1COMPONENT-474;1COMPONENT-475;1COMPONENT-476;1COMPONENT-477;1COMPONENT-478;1COMPONENT-479",
     "1COMPONENT-480;1COMPONENT-481;1COMPONENT-482;1COMPONENT-483;1COMPONENT-484;1COMPONENT-485",
     "1COMPONENT-486;1COMPONENT-487;1COMPONENT-488;1COMPONENT-489;1COMPONENT-490;1COMPONENT-491",
     "1COMPONENT-492;1COMPONENT-493;1COMPONENT-494;1COMPONENT-495;1COMPONENT-496;1COMPONENT-497",
     "1COMPONENT-498;1COMPONENT-499;1COMPONENT-500;1COMPONENT-501;1COMPONENT-502;1COMPONENT-503",
     "1COMPONENT-504;1COMPONENT-505;1COMPONENT-506;1COMPONENT-507;1COMPONENT-508;1COMPONENT-509",
     "1COMPONENT-510;1COMPONENT-511;1COMPONENT-512;1COMPONENT-513;1COMPONENT-514;1COMPONENT-515",
     "1COMPONENT-516;1COMPONENT-517;1COMPONENT-518;1COMPONENT-519;1COMPONENT-520;1COMPONENT-521",
     "1COMPONENT-522;1COMPONENT-523;1COMPONENT-524;1COMPONENT-525;1COMPONENT-526;1COMPONENT-527",
     "1COMPONENT-528;1COMPONENT-529;1COMPONENT-530;1COMPONENT-531;1COMPONENT-532;1COMPONENT-533",
     "1COMPONENT-534;1COMPONENT-535;1COMPONENT-536;1COMPONENT-537;1COMPONENT-538;1COMPONENT-539",
     "1COMPONENT-540;1COMPONENT-541;1COMPONENT-542;1COMPONENT-543;1COMPONENT-544;1COMPONENT-545",
     "1COMPONENT-546;1COMPONENT-547;1COMPONENT-548;1COMPONENT-549;1COMPONENT-550;1COMPONENT-551",
     "1COMPONENT-552;1COMPONENT-553;1COMPONENT-554;1COMPONENT-555;1COMPONENT-556;1COMPONENT-557",
     "1COMPONENT-558;1COMPONENT-559;1COMPONENT-560;1COMPONENT-561;1COMPONENT-562;1COMPONENT-563",
     "1COMPONENT-564;1COMPONENT-565;1COMPONENT-566;1COMPONENT-567;1COMPONENT-568;1COMPONENT-569",
     "1COMPONENT-570;1COMPONENT-571;1COMPONENT-572;1COMPONENT-573;1COMPONENT-574;1COMPONENT-575",
     "1COMPONENT-576;1COMPONENT-577;1COMPONENT-578;1COMPONENT-579;1COMPONENT-580;1COMPONENT-581",
     "1COMPONENT-582;1COMPONENT-583;1COMPONENT-584;1COMPONENT-585;1COMPONENT-586;1COMPONENT-587",
     "1COMPONENT-588;1COMPONENT-589;1COMPONENT-590;1COMPONENT-591;1COMPONENT-592;1COMPONENT-593",
     "1COMPONENT-594;1COMPONENT-595;1COMPONENT-596;1COMPONENT-597;1COMPONENT-598;1COMPONENT-599",
     "1COMPONENT-600;1COMPONENT-601;1COMPONENT-602;1COMPONENT-603;1COMPONENT-604;1COMPONENT-605",
     "1COMPONENT-606;1COMPONENT-607;1COMPONENT-608;1COMPONENT-609;1COMPONENT-610;1COMPONENT-611",
     "1COMPONENT-612;1COMPONENT-613;1COMPONENT-614;1COMPONENT-615;1COMPONENT-616;1COMPONENT-617",
     "1COMPONENT-618;1COMPONENT-619;1COMPONENT-620;1COMPONENT-621;1COMPONENT-622;1COMPONENT-623",
     "1COMPONENT-624;1COMPONENT-625;1COMPONENT-626;1COMPONENT-627;1COMPONENT-628;1COMPONENT-629",
     "1COMPONENT-630;1COMPONENT-631;1COMPONENT-632;1COMPONENT-633;1COMPONENT-634;1COMPONENT-635",
     "1COMPONENT-636;1COMPONENT-637;1COMPONENT-638;1COMPONENT-639;1COMPONENT-640;1COMPONENT-641",
     "1COMPONENT-642;1COMPONENT-643;1COMPONENT-644;1COMPONENT-645;1COMPONENT-646;1COMPONENT-647",
     "1COMPONENT-648;1COMPONENT-649;1COMPONENT-650;1COMPONENT-651;1COMPONENT-652;1COMPONENT-653",
     "1COMPONENT-654;1COMPONENT-655;1COMPONENT-656;1COMPONENT-657;1COMPONENT-658;1COMPONENT-659",
     "1COMPONENT-660;1COMPONENT-661;1COMPONENT-662;1COMPONENT-663;1COMPONENT-664;1COMPONENT-665",
     "1COMPONENT-666;1COMPONENT-667;1COMPONENT-668;1COMPONENT-669;1COMPONENT-670;1COMPONENT-671",
     "1COMPONENT-672;1COMPONENT-673;1COMPONENT-674;1COMPONENT-675;1COMPONENT-676;1COMPONENT-677",
     "1COMPONENT-678;1COMPONENT-679;1COMPONENT-680;1COMPONENT-681;1COMPONENT-682;1COMPONENT-683",
     "1COMPONENT-684;1COMPONENT-685;1COMPONENT-686;1COMPONENT-687;1COMPONENT-688;1COMPONENT-689",
     "1COMPONENT-690;1COMPONENT-691;1COMPONENT-692;1COMPONENT-693;1COMPONENT-694;1COMPONENT-695",
     "1COMPONENT-696;1COMPONENT-697;1COMPONENT-698;1COMPONENT-699;1COMPONENT-700;1COMPONENT-701",
     "1COMPONENT-702;1COMPONENT-703;1COMPONENT-704;1COMPONENT-705;1COMPONENT-706;1COMPONENT-707",
     "1COMPONENT-708;1COMPONENT-709;1COMPONENT-710;1COMPONENT-711;1COMPONENT-712;1COMPONENT-713",
     "1COMPONENT-714;1COMPONENT-715;1COMPONENT-716;1COMPONENT-717;1COMPONENT-718;1COMPONENT-719",
     "1COMPONENT-720;1COMPONENT-721;1COMPONENT-722;1COMPONENT-723;1COMPONENT-724;1COMPONENT-725",
     "1COMPONENT-726;1COMPONENT-727;1COMPONENT-728;1COMPONENT-729;1COMPONENT-730;1COMPONENT-731",
     "1COMPONENT-732;1COMPONENT-733;1COMPONENT-734;1COMPONENT-735;1COMPONENT-736;1COMPONENT-737",
     "1COMPONENT-738;1COMPONENT-739;1COMPONENT-740;1COMPONENT-741;1COMPONENT-742;1COMPONENT-743",
     "1COMPONENT-744;1COMPONENT-745;1COMPONENT-746;1COMPONENT-747;1COMPONENT-748;1COMPONENT-749",
     "1COMPONENT-750;1COMPONENT-751;1COMPONENT-752;1COMPONENT-753;1COMPONENT-754;1COMPONENT-755",
     "1COMPONENT-756;1COMPONENT-757;1COMPONENT-758;1COMPONENT-759;1COMPONENT-760;1COMPONENT-761",
     "1COMPONENT-762;1COMPONENT-763;1COMPONENT-764;1COMPONENT-765;1COMPONENT-766;1COMPONENT-767",
     "1COMPONENT-768"]⟩,
   ⟨0x1AFF0, ["0KATAKANA LETTER MINNAN TONE-2;3TONE-3;3TONE-4;3TONE-5"]⟩,
   ⟨0x1AFF5, ["0KATAKANA LETTER MINNAN TONE-7;3TONE-8;3NASALIZED TONE-1;4TONE-2;4TONE-3;4TONE-4",
     "4TONE-5"]⟩,
   ⟨0x1AFFD, ["0KATAKANA LETTER MINNAN NASALIZED TONE-7;4TONE-8"]⟩,
   ⟨0x1B000, ["0KATAKANA LETTER ARCHAIC E;0HIRAGANA LETTER ARCHAIC YE;0HENTAIGANA LETTER A-1;2A-2",
     "2A-3;2A-WO;2I-1;2I-2;2I-3;2I-4;2U-1;2U-2;2U-3;2U-4;2U-5;2E-2;2E-3;2E-4;2E-5;2E-6;2O-1;2O-2",
     "2O-3;2KA-1;2KA-2;2KA-3;2KA-4;2KA-5;2KA-6;2KA-7;2KA-8;2KA-9;2KA-10;2KA-11;2KA-KE;2KI-1;2KI-2",
     "2KI-3;2KI-4;2KI-5;2KI-6;2KI-7;2KI-8;2KU-1;2KU-2;2KU-3;2KU-4;2KU-5;2KU-6;2KU-7;2KE-1;2KE-2",
     "2KE-3;2KE-4;2KE-5;2KE-6;2KO-1;2KO-2;2KO-3;2KO-KI;2SA-1;2SA-2;2SA-3;2SA-4;2SA-5;2SA-6;2SA-7",
     "2SA-8;2SI-1;2SI-2;2SI-3;2SI-4;2SI-5;2SI-6;2SU-1;2SU-2;2SU-3;2SU-4;2SU-5;2SU-6;2SU-7;2SU-8",
     "2SE-1;2SE-2;2SE-3;2SE-4;2SE-5;2SO-1;2SO-2;2SO-3;2SO-4;2SO-5;2SO-6;2SO-7;2TA-1;2TA-2;2TA-3",
     "2TA-4;2TI-1;2TI-2;2TI-3;2TI-4;2TI-5;2TI-6;2TI-7;2TU-1;2TU-2;2TU-3;2TU-4;2TU-TO;2TE-1;2TE-2",
     "2TE-3;2TE-4;2TE-5;2TE-6;2TE-7;2TE-8;2TE-9;2TO-1;2TO-2;2TO-3;2TO-4;2TO-5;2TO-6;2TO-RA;2NA-1",
     "2NA-2;2NA-3;2NA-4;2NA-5;2NA-6;2NA-7;2NA-8;2NA-9;2NI-1;2NI-2;2NI-3;2NI-4;2NI-5;2NI-6;2NI-7",
     "2NI-TE;2NU-1;2NU-2;2NU-3;2NE-1;2NE-2;2NE-3;2NE-4;2NE-5;2NE-6;2NE-KO;2NO-1;2NO-2;2NO-3;2NO-4",
     "2NO-5;2HA-1;2HA-2;2HA-3;2HA-4;2HA-5;2HA-6;2HA-7;2HA-8;2HA-9;2HA-10;2HA-11;2HI-1;2HI-2;2HI-3",
     "2HI-4;2HI-5;2HI-6;2HI-7;2HU-1;2HU-2;2HU-3;2HE-1;2HE-2;2HE-3;2HE-4;2HE-5;2HE-6;2HE-7;2HO-1",
     "2HO-2;2HO-3;2HO-4;2HO-5;2HO-6;2HO-7;2HO-8;2MA-1;2MA-2;2MA-3;2MA-4;2MA-5;2MA-6;2MA-7;2MI-1",
     "2MI-2;2MI-3;2MI-4;2MI-5;2MI-6;2MI-7;2MU-1;2MU-2;2MU-3;2MU-4;2ME-1;2ME-2;2ME-MA;2MO-1;2MO-2",
     "2MO-3;2MO-4;2MO-5;2MO-6;2YA-1;2YA-2;2YA-3;2YA-4;2YA-5;2YA-YO;2YU-1;2YU-2;2YU-3;2YU-4;2YO-1",
     "2YO-2;2YO-3;2YO-4;2YO-5;2YO-6;2RA-1;2RA-2;2RA-3;2RA-4;2RI-1;2RI-2;2RI-3;2RI-4;2RI-5;2RI-6",
     "2RI-7;2RU-1;2RU-2;2RU-3;2RU-4;2RU-5;2RU-6;2RE-1;2RE-2;2RE-3;2RE-4;2RO-1;2RO-2;2RO-3;2RO-4",
     "2RO-5;2RO-6;2WA-1;2WA-2;2WA-3;2WA-4;2WA-5;2WI-1;2WI-2;2WI-3;2WI-4;2WI-5;2WE-1;2WE-2;2WE-3",
     "2WE-4;2WO-1;2WO-2;2WO-3;2WO-4;2WO-5;2WO-6;2WO-7;2N-MU-MO-1;2N-MU-MO-2",
     "0HIRAGANA LETTER ARCHAIC WU;0KATAKANA LETTER ARCHAIC YI;3YE;3WU"]⟩,
   ⟨0x1B150, ["0HIRAGANA LETTER SMALL WI;3WE;3WO"]⟩,
   ⟨0x1B164, ["0KATAKANA LETTER SMALL WI;3WE;3WO;3N"]⟩,
   ⟨0x1BC00, ["0DUPLOYAN LETTER H;2X;2P;2T;2F;2K;2L;2B;2D;2V;2G;2R;2P N;2D S;2F N;2K M;2R S;2TH",
     "2SLOAN DH;2DH;2KK;2SLOAN J;2HL;2LH;2RH;2M;2N;2J;2S;2M N;2N M;2J M;2S J;2M WITH DOT",
     "2N WITH DOT;2J WITH DOT;4DOTS INSIDE AND ABOVE;2S WITH DOT;5BELOW;2M S;2N S;2J S;2S S;2M N S",
     "2N M S;2J M S;2S J S;2J S WITH DOT;3N;4S;2S T;4R;3P;4R;2T S;3R S;2W;2WH;2W R;2S N;3M;2K R S",
     "2G R S;2S K;4R;2A;2SLOAN OW;2OA;2O;2AOU;2I;2E;2IE;2SHORT I;2UI;2EE;2SLOAN EH;2ROMANIAN I",
     "2SLOAN EE;2LONG I;2YE;2U;2EU;2XW;2U N;2LONG U;2ROMANIAN U;2UH;2SLOAN U;2OOH;2OW;2OU;2WA;2WO",
     "2WI;2WEI;2WOW;2NASAL U;3O;3I;3A;2PERNIN AN;3AM;2SLOAN EN;3AN;3ON;2VOCALIC M"]⟩,
   ⟨0x1BC70, ["0DUPLOYAN AFFIX LEFT HORIZONTAL SECANT;2MID HORIZONTAL SECANT",
     "2RIGHT HORIZONTAL SECANT;2LOW VERTICAL SECANT;2MID VERTICAL SECANT;2HIGH VERTICAL SECANT",
     "2ATTACHED SECANT;3LEFT-TO-RIGHT SECANT;3TANGENT;3TAIL;3E HOOK;3I HOOK;3TANGENT HOOK"]⟩,
   ⟨0x1BC80, ["0DUPLOYAN AFFIX HIGH ACUTE;3TIGHT ACUTE;3GRAVE;3LONG GRAVE;3DOT;3CIRCLE;3LINE;3WAVE",
     "3VERTICAL"]⟩,
   ⟨0x1BC90, ["0DUPLOYAN AFFIX LOW ACUTE;3TIGHT ACUTE;3GRAVE;3LONG GRAVE;3DOT;3CIRCLE;3LINE;3WAVE",
     "3VERTICAL;3ARROW"]⟩,
   ⟨0x1BC9C, ["0DUPLOYAN SIGN O WITH CROSS;1THICK LETTER SELECTOR;1DOUBLE MARK",
     "1PUNCTUATION CHINOOK FULL STOP;0SHORTHAND FORMAT LETTER OVERLAP;2CONTINUING OVERLAP",
     "2DOWN STEP;2UP STEP"]⟩,
   ⟨0x1CF00, ["0ZNAMENNY COMBINING MARK GORAZDO NIZKO S KRYZHEM ON LEFT;3NIZKO S KRYZHEM ON LEFT",
     "3TSATA ON LEFT;3GORAZDO NIZKO ON LEFT;3NIZKO ON LEFT;3SREDNE ON LEFT;3MALO POVYSHE ON LEFT",
     "3POVYSHE ON LEFT;3VYSOKO ON LEFT;3MALO POVYSHE S KHOKHLOM ON LEFT",
     "3POVYSHE S KHOKHLOM ON LEFT",
     "3VYSOKO S KHOKHLOM ON LEFT;3GORAZDO NIZKO S KRYZHEM ON RIGHT;3NIZKO S KRYZHEM ON RIGHT",
     "3TSATA ON RIGHT;3GORAZDO NIZKO ON RIGHT;3NIZKO ON RIGHT;3SREDNE ON RIGHT",
     "3MALO POVYSHE ON RIGHT;3POVYSHE ON RIGHT;3VYSOKO ON RIGHT;3MALO POVYSHE S KHOKHLOM ON RIGHT",
     "3POVYSHE S KHOKHLOM ON RIGHT;3VYSOKO S KHOKHLOM ON RIGHT;3TSATA S KRYZHEM",
     "3MALO POVYSHE S KRYZHEM;3STRANNO MALO POVYSHE;3POVYSHE S KRYZHEM;4STRANNO;3VYSOKO S KRYZHEM",
     "3MALO POVYSHE STRANNO;3GORAZDO VYSOKO;3ZELO;3ON;3RAVNO;3TIKHAYA;3BORZAYA;3UDARKA;3PODVERTKA",
     "3LOMKA;3KUPNAYA;3KACHKA;3ZEVOK;3SKOBA;3RAZSEKA;3KRYZH ON LEFT"]⟩,
   ⟨0x1CF30, ["0ZNAMENNY COMBINING TONAL RANGE MARK MRACHNO;5SVETLO;5TRESVETLO;2MARK ZADERZHKA",
     "3DEMESTVENNY ZADERZHKA;3OTSECHKA;3PODCHASHIE;4WITH VERTICAL STROKE;3CHASHKA;4POLNAYA",
     "3OBLACHKO;3SOROCHYA NOZHKA;3TOCHKA;3DVOETOCHIE;2ATTACHING VERTICAL OMET;2MARK CURVED OMET",
     "3KRYZH;2LOWER TONAL RANGE INDICATOR;1PRIZNAK MODIFIER LEVEL-2;3LEVEL-3;3DIRECTION FLIP",
     "3KRYZH",
     "3ROG"]⟩,
   ⟨0x1CF50, ["0ZNAMENNY NEUME KRYUK;3TIKHY;2PARAKLIT;2DVA V CHELNU;2KLYUCH;2ZANOZHEK;2STOPITSA",
     "3S OCHKOM;2PEREVODKA;3NEPOSTOYANNAYA;2STOPITSA WITH SOROCHYA NOZHKA;2CHELYUSTKA;2PALKA",
     "2ZAPYATAYA;2GOLUBCHIK BORZY;3TIKHY;3MRACHNY;3SVETLY;3TRESVETLY;2VRAKHIYA PROSTAYA;3MRACHNAYA",
     "3SVETLAYA;3TRESVETLAYA;3KLYUCHEVAYA PROSTAYA;4MRACHNAYA;4SVETLAYA;4TRESVETLAYA",
     "2DOUBLE ZAPYATAYA;2REVERSED CHELYUSTKA;2DERBITSA;2KHAMILO;2CHASHKA;2PODCHASHIE",
     "2SKAMEYTSA MRACHNAYA;3SVETLAYA;3TRESVETLAYA;3TIKHAYA;2DEMESTVENNY KLYUCH",
     "2SKAMEYTSA KLYUCHEVAYA SVETLAYA;3KLYUCHENEPOSTOYANNAYA;3KLYUCHEVAYA TIKHAYA",
     "3DVOECHELNAYA PROSTAYA;4SVETLAYA;4NEPOSTOYANNAYA;4KLYUCHEVAYA;2SLOZHITIE;3S ZAPYATOY",
     "3ZAKRYTOE;3S KRYZHEM;2KRYZH;2ROG;2FITA;2KOBYLA;2ZMEYTSA;2STATYA;3S ZAPYATOY;4KRYZHEM",
     "4ZAPYATOY I KRYZHEM;4KRYZHEM I ZAPYATOY;3ZAKRYTAYA;4S ZAPYATOY;3S ROGOM;4DVUMYA ZAPYATYMI",
     "4ZAPYATOY I PODCHASHIEM;2POLKULIZMY;2STATYA NEPOSTOYANNAYA;2STRELA PROSTAYA;3MRACHNOTIKHAYA",
     "3KRYZHEVAYA;3POLUPOVODNAYA;3POVODNAYA;3NEPOSTOYANNAYA;3KLYUCHEPOVODNAYA",
     "3KLYUCHENEPOSTOYANNAYA;3TIKHAYA PUTNAYA;3DVOECHELNAYA;3DVOECHELNOKRYZHEVAYA",
     "3DVOECHELNOPOVODNAYA;3DVOECHELNAYA KLYUCHEVAYA;3DVOECHELNOPOVODNAYA KLYUCHEVAYA",
     "3GROMNAYA WITH SINGLE ZAPYATAYA;3GROMOPOVODNAYA WITH SINGLE ZAPYATAYA;3GROMNAYA",
     "3GROMOPOVODNAYA;4WITH DOUBLE ZAPYATAYA;3GROMOKRYZHEVAYA;4POVODNAYA;2MECHIK;3POVODNY",
     "3KLYUCHEVOY;3KLYUCHEPOVODNY;3KLYUCHENEPOSTOYANNY;2STRELA TRYASOGLASNAYA;3TRYASOPOVODNAYA",
     "3TRYASOSTRELNAYA;2OSOKA;3SVETLAYA;3TRESVETLAYA;3KRYUKOVAYA SVETLAYA;3KLYUCHEVAYA SVETLAYA",
     "4NEPOSTOYANNAYA;2STRELA KRYUKOVAYA;4POVODNAYA;4GROMNAYA WITH SINGLE ZAPYATAYA",
     "4GROMOPOVODNAYA WITH SINGLE ZAPYATAYA;4GROMNAYA;4GROMOPOVODNAYA;5WITH DOUBLE ZAPYATAYA",
     "4GROMOKRYZHEVAYA;5POVODNAYA;4TRYASKA;2KUFISMA;2OBLAKO;2DUDA;2NEMKA;2PAUK"]⟩]

end ConfigLint
