/-!
# Names of characters

The names and aliases of the characters of Unicode 14, apart from the ideographs and the Korean syllables that are
named by rule.  The names stand in alphabetical order.  Before each one a small letter tells how many words it has in
common with the name before it, `a` none, `b` one and so on, and these words are left out.  A word ends with a space
or a hyphen.
-/

set_option autoImplicit false

namespace SearchQuery.Text

def nameTable : String :=
  "aABACUSaAC CURRENTaACCORDIONaACCOUNT OFaACKaACKNOWLEDGEaACTIVATE ARABIC FORM SHAPINGbSYMMETRIC SWAPPINGaACUTE ACCENT
bANGLEaADDRESSED TO THE SUBJECTaADHESIVE BANDAGEaADI SHAKTIaADLAM ALIF LENGTHENERbCAPITAL LETTER ALIFdBAdBHEdCHIdDAALI
dDHAdEdFAdGAdGBEdHAdIdJIIMdKAFdKHAdKPOdLAAMdMIIMdNHAdNUNdNYAdOdPEdQAAFdRAdSHAdSINNYIIYHEdTUdUdVAdWAWdYAdYHEdZAL
bCONSONANT MODIFIERbDIGIT EIGHTcFIVEcFOURcNINEcONEcSEVENcSIXcTHREEcTWOcZERObGEMINATE CONSONANT MODIFIER
bGEMINATION MARKbHAMZAbINITIAL EXCLAMATION MARKcQUESTION MARKbNASALIZATION MARKbNUKTAbSMALL LETTER ALIFdBAdBHEdCHI
dDAALIdDHAdEdFAdGAdGBEdHAdIdJIIMdKAFdKHAdKPOdLAAMdMIIMdNHAdNUNdNYAdOdPEdQAAFdRAdSHAdSINNYIIYHEdTUdUdVAdWAWdYAdYHEdZAL
bVOWEL LENGTHENERaADMETOSaADMISSION TICKETSaADULTaAEGEAN CHECK MARKbDRY MEASURE FIRST SUBUNIT
bLIQUID MEASURE FIRST SUBUNITbMEASURE SECOND SUBUNITcTHIRD SUBUNITbNUMBER EIGHTcEIGHT HUNDREDdTHOUSANDcEIGHTY
cEIGHTY THOUSANDcFIFTYcFIFTY THOUSANDcFIVEcFIVE HUNDREDdTHOUSANDcFORTYcFORTY THOUSANDcFOURcFOUR HUNDREDdTHOUSANDcNINE
cNINE HUNDREDdTHOUSANDcNINETYcNINETY THOUSANDcONEcONE HUNDREDdTHOUSANDcSEVENcSEVEN HUNDREDdTHOUSANDcSEVENTY
cSEVENTY THOUSANDcSIXcSIX HUNDREDdTHOUSANDcSIXTYcSIXTY THOUSANDcTENcTEN THOUSANDcTHIRTYcTHIRTY THOUSANDcTHREE
cTHREE HUNDREDdTHOUSANDcTWENTYcTWENTY THOUSANDcTWOcTWO HUNDREDdTHOUSANDbWEIGHT BASE UNITcFIRST SUBUNITcFOURTH SUBUNIT
cSECOND SUBUNITcTHIRD SUBUNITbWORD SEPARATOR DOTdLINEaAERIAL TRAMWAYaAFGHANI SIGNaAHOM CONSONANT SIGN MEDIAL LA
eLIGATING RAeRAbDIGIT EIGHTcFIVEcFOURcNINEcONEcSEVENcSIXcTHREEcTWOcZERObLETTER AcALTERNATE BAdGAdTAcBAcBHAcCAcCHAcDA
cDDAcDDHAcDHAcGAcGHAcHAcJAcJHAcKAcKHAcLAcLLAcMAcNAcNGAcNNAcNYAcPAcPHAcRAcSAcTAcTHAcTTAcTTHAbNUMBER TENcTWENTY
bSIGN KILLERcRULAIcSECTIONcSMALL SECTIONbSYMBOL VIbVOWEL SIGN AdAAdAIdAMdAWdEdIdIIdOdUdUUaAIRPLANEaAIRPLANE ARRIVING
bDEPARTUREaAKTIESELSKABaALARM CLOCKaALCHEMICAL SYMBOL FOR AIRdALEMBICdALKALIdALKALI-2dALUMdAMALGAMdANTIMONY ORE
dAQUA REGIAeREGIA-2eVITAEeVITAE-2dAQUAFORTISdARSENICdASHESdAURIPIGMENTdBATH OF MARYfVAPOURSdBISMUTH OREdBLACK SULFUR
dBORAXdBORAX-2e3dBRICKdCADUCEUSdCALXdCAPUT MORTUUMdCINNABARdCOPPER ANTIMONIATEeOREdCROCUS OF COPPERfCOPPER-2fIRON
dCRUCIBLEdCRUCIBLE-2e3e4e5dDAY-NIGHTdDISSOLVEdDISSOLVE-2dDISTILLdEARTHdFIREdGOLDdGUMdHALF DRAMeOUNCEdHORSE DUNGdHOUR
dIRON OREeORE-2dIRON-COPPER OREdLEAD OREdLODESTONEdMARCASITEdMERCURY SUBLIMATEeSUBLIMATE-2f3dMONTHdNIGHTdNITREdOIL
dPHILOSOPHERS SULFURdPOT ASHESdPOWDERdPOWDERED BRICKdPRECIPITATEdPURIFYdPUTREFACTIONdQUICK LIMEdQUINTESSENCEdREALGAR
dREALGAR-2dREGULUSdREGULUS OF ANTIMONYfANTIMONY-2fIRONdREGULUS-2e3e4dRETORTdROCK SALTeSALT-2dSAL-AMMONIACdSALT
dSALT OF ANTIMONYfCOPPER ANTIMONIATEdSCEPTER OF JOVEdSILVERdSOAPdSPIRITdSTARRED TRIDENTdSTRATUM SUPER STRATUM
fSTRATUM-2dSUBLIMATE OF ANTIMONYfCOPPERfSALT OF ANTIMONYhCOPPERdSUBLIMATIONdSULFURdTARTARdTARTAR-2dTIN OREdTINCTURE
dTRIDENTdTUTTYdURINEdVERDIGRISdVINEGARdVINEGAR OF ANTIMONYdVINEGAR-2e3dVITRIOLdVITRIOL-2dWATERdWAXaALEF SYMBOLaALEMBIC
aALERTaALIEN MONSTERaALL AROUND-PROFILEbEQUAL TOaALMaALMOST EQUAL OR EQUAL TOcTOcTO WITH CIRCUMFLEX ACCENT
aALTERNATE ONE-WAY LEFT WAY TRAFFICaALTERNATIVE KEY SYMBOLaAMALGAMATION OR COPRODUCTaAMBULANCEaAMERICAN FOOTBALL
aAMPERSANDaAMPHORAaANATOLIAN HIEROGLYPH A001cA002cA003cA004cA005cA006cA007cA008cA009cA010cA010AcA011cA012cA013cA014
cA015cA016cA017cA018cA019cA020cA021cA022cA023cA024cA025cA026cA026AcA027cA028cA029cA030cA031cA032cA033cA034cA035cA036
cA037cA038cA039cA039AcA040cA041cA041AcA042cA043cA044cA045cA045AcA046cA046AcA046BcA047cA048cA049cA050cA051cA052cA053
cA054cA055cA056cA057cA058cA059cA060cA061cA062cA063cA064cA065cA066cA066AcA066BcA066CcA067cA068cA069cA070cA071cA072cA073
cA074cA075cA076cA077cA078cA079cA080cA081cA082cA083cA084cA085cA086cA087cA088cA089cA090cA091cA092cA093cA094cA095cA096
cA097cA097AcA098cA098AcA099cA100cA100AcA101cA101AcA102cA102AcA103cA104cA104AcA104BcA104CcA105cA105AcA105BcA106cA107
cA107AcA107BcA107CcA108cA109cA110cA110AcA110BcA111cA112cA113cA114cA115cA115AcA116cA117cA118cA119cA120cA121cA122cA123
cA124cA125cA125AcA126cA127cA128cA129cA130cA131cA132cA133cA134cA135cA135AcA136cA137cA138cA139cA140cA141cA142cA143cA144
cA145cA146cA147cA148cA149cA150cA151cA152cA153cA154cA155cA156cA157cA158cA159cA160cA161cA162cA163cA164cA165cA166cA167
cA168cA169cA170cA171cA172cA173cA174cA175cA176cA177cA178cA179cA180cA181cA182cA183cA184cA185cA186cA187cA188cA189cA190
cA191cA192cA193cA194cA195cA196cA197cA198cA199cA200cA201cA202cA202AcA202BcA203cA204cA205cA206cA207cA207AcA208cA209
cA209AcA210cA211cA212cA213cA214cA215cA215AcA216cA216AcA217cA218cA219cA220cA221cA222cA223cA224cA225cA226cA227cA227A
cA228cA229cA230cA231cA232cA233cA234cA235cA236cA237cA238cA239cA240cA241cA242cA243cA244cA245cA246cA247cA248cA249cA250
cA251cA252cA253cA254cA255cA256cA257cA258cA259cA260cA261cA262cA263cA264cA265cA266cA267cA267AcA268cA269cA270cA271cA272
cA273cA274cA275cA276cA277cA278cA279cA280cA281cA282cA283cA284cA285cA286cA287cA288cA289cA289AcA290cA291cA292cA293cA294
cA294AcA295cA296cA297cA298cA299cA299AcA300cA301cA302cA303cA304cA305cA306cA307cA308cA309cA309AcA310cA311cA312cA313cA314
cA315cA316cA317cA318cA319cA320cA321cA322cA323cA324cA325cA326cA327cA328cA329cA329AcA330cA331cA332AcA332BcA332CcA333
cA334cA335cA336cA336AcA336BcA336CcA337cA338cA339cA340cA341cA342cA343cA344cA345cA346cA347cA348cA349cA350cA351cA352cA353
cA354cA355cA356cA357cA358cA359cA359AcA360cA361cA362cA363cA364cA364AcA365cA366cA367cA368cA368AcA369cA370cA371cA371A
cA372cA373cA374cA375cA376cA377cA378cA379cA380cA381cA381AcA382cA383 RA OR RIcA383AcA384cA385cA386cA386AcA387cA388cA389
cA390cA391cA392cA393 EIGHTcA394cA395cA396cA397cA398cA399cA400cA401cA402cA403cA404cA405cA406cA407cA408cA409
cA410 BEGIN LOGOGRAM MARKcA410A END LOGOGRAM MARKcA411cA412cA413cA414cA415cA416cA417cA418cA419cA420cA421cA422cA423
cA424cA425cA426cA427cA428cA429cA430cA431cA432cA433cA434cA435cA436cA437cA438cA439cA440cA441cA442cA443cA444cA445cA446
cA447cA448cA449cA450cA450AcA451cA452cA453cA454cA455cA456cA457cA457AcA458cA459cA460cA461cA462cA463cA464cA465cA466cA467
cA468cA469cA470cA471cA472cA473cA474cA475cA476cA477cA478cA479cA480cA481cA482cA483cA484cA485cA486cA487cA488cA489cA490
cA491cA492cA493cA494cA495cA496cA497cA501cA502cA503cA504cA505cA506cA507cA508cA509cA510cA511cA512cA513cA514cA515cA516
cA517cA518cA519cA520cA521cA522cA523cA524cA525cA526cA527cA528cA529cA530aANATOMICAL HEARTaANCHORaAND WITH DOT
aANGER SYMBOLaANGLEaANGLE WITH S INSIDEcUNDERBARaANGRY FACEaANGSTROM SIGNaANGUISHED FACEaANKHaANTaANTENNA WITH BARS
aANTICLOCKWISE CLOSED CIRCLE ARROWbCONTOUR INTEGRALbDOWNWARDS AND UPWARDS OPEN CIRCLE ARROWSbGAPPED CIRCLE ARROW
bINTEGRATIONbOPEN CIRCLE ARROWbTOP SEMICIRCLE ARROWbTRIANGLE-HEADED BOTTOM U-SHAPED ARROWdLEFT U-SHAPED ARROW
dOPEN CIRCLE ARROWdRIGHT U-SHAPED ARROWdTOP U-SHAPED ARROWaAPCaAPL FUNCTIONAL SYMBOL ALPHAdALPHA UNDERBAR
dBACKSLASH BARdCIRCLE BACKSLASHeDIAERESISeJOTeSTAReSTILEeUNDERBARdCOMMA BARdDEL DIAERESISeSTILEeTILDEdDELTA STILE
eUNDERBARdDIAMOND UNDERBARdDOWN CARET TILDEeSHOE STILEeTACK JOTfUNDERBARdDOWNWARDS VANEdEPSILON UNDERBAR
dGREATER-THAN DIAERESISdI-BEAMdIOTAdIOTA UNDERBARdJOT DIAERESISeUNDERBARdLEFT SHOE STILEdLEFTWARDS VANEdOMEGA
dOMEGA UNDERBARdQUADdQUAD BACKSLASHeCIRCLEeCOLONeDELeDELTAeDIAMONDeDIVIDEeDOWN CARETeDOWNWARDS ARROWeEQUAL
eGREATER-THANeJOTeLEFTWARDS ARROWeLESS-THANeNOT EQUALeQUESTIONeRIGHTWARDS ARROWeSLASHeUP CARETeUPWARDS ARROW
dQUOTE QUADeUNDERBARdRHOdRIGHTWARDS VANEdSEMICOLON UNDERBARdSLASH BARdSQUISH QUADdSTAR DIAERESISdSTILE TILDE
dTILDE DIAERESISdUP CARET TILDEeSHOE JOTeTACK DIAERESISfJOTfOVERBARdUPWARDS VANEdZILDEaAPOLLONaAPOSTROPHE
aAPPLICATION PROGRAM COMMANDaAPPROACHES THE LIMITaAPPROXIMATELY BUT NOT ACTUALLY EQUAL TObEQUAL OR EQUAL TOcTO
cTO OR THE IMAGE OFaAQUARIUSaARABIC BASELINE ROUND DOTbCOMMAbCURLY DAMMAcDAMMATANcFATHAcFATHATANcKASRAcKASRATANbDAMMA
bDAMMA ISOLATED FORMcMEDIAL FORMcWITH DOTbDAMMATANbDAMMATAN ISOLATED FORMbDATE SEPARATORbDECIMAL SEPARATOR
bDISPUTED END OF AYAHbDOUBLE RIGHT ARROWHEAD ABOVEeABOVE WITH DOTbDOUBLED MADDAbEMPTY CENTRE HIGH STOPdLOW STOP
bEND OF AYAHdTEXT MARKbFATHAbFATHA ISOLATED FORMcMEDIAL FORMcWITH DOT ABOVEdRINGdTWO DOTSbFATHATAN
bFATHATAN ISOLATED FORMbFIVE POINTED STARbFOOTNOTE MARKERbFULL STOPbHALF MADDA OVER MADDAbHAMZA ABOVEcBELOW
bINVERTED DAMMAbKASRAbKASRA ISOLATED FORMcMEDIAL FORMcWITH DOT BELOWbKASRATANbKASRATAN ISOLATED FORM
bLARGE CIRCLE BELOWcROUND DOT ABOVEeBELOWeINSIDE CIRCLE BELOWbLEFT ARROWHEAD ABOVEdBELOWbLETTER AEcAFRICAN FEHdNOON
dQAFdQAF WITH THREE DOTS ABOVEcAINcAIN FINAL FORMdINITIAL FORMdISOLATED FORMdMEDIAL FORMdWITH THREE DOTS ABOVEgBELOW
gPOINTING DOWNWARDS ABOVEeTWO DOTS ABOVEgVERTICALLY ABOVEcALEFcALEF FINAL FORMdISOLATED FORMdMAKSURA
dMAKSURA FINAL FORMeISOLATED FORMdWASLAdWASLA FINAL FORMeISOLATED FORMdWITH ATTACHED BOTTOM RIGHT KASRA
hKASRA AND DOT ABOVEjLEFT RINGfFATHAfKASRAfLEFT HAMZAgROUND DOTfRIGHT HAMZAgROUND DOTfROUND DOT ABOVEhBELOW
fTOP RIGHT FATHAhFATHA AND DOT ABOVEjLEFT RINGeDOT ABOVEeEXTENDED ARABIC-INDIC DIGIT THREE ABOVEiTWO ABOVEeHAMZA ABOVE
fABOVE FINAL FORMgISOLATED FORMfBELOWfBELOW FINAL FORMgISOLATED FORMeLEFT MIDDLE STROKEeMADDA ABOVEfABOVE FINAL FORM
gISOLATED FORMeRIGHT MIDDLE STROKEgSTROKE AND DOT ABOVEiLEFT RINGeWAVY HAMZA ABOVEgBELOWcBEEHcBEEH FINAL FORM
dINITIAL FORMdISOLATED FORMdMEDIAL FORMcBEHcBEH FINAL FORMdINITIAL FORMdISOLATED FORMdMEDIAL FORM
dWITH DOT BELOW AND THREE DOTS ABOVEeHAMZA ABOVEeINVERTED SMALL V BELOWeSMALL MEEM ABOVEfVfV BELOW
eTHREE DOTS HORIZONTALLY BELOWgPOINTING UPWARDS BELOWiBELOW AND TWO DOTS ABOVEeTWO DOTS BELOW AND DOT ABOVEcBEHEH
cBEHEH FINAL FORMdINITIAL FORMdISOLATED FORMdMEDIAL FORMcDADcDAD FINAL FORMdINITIAL FORMdISOLATED FORMdMEDIAL FORM
dWITH DOT BELOWcDAHALcDAHAL FINAL FORMdISOLATED FORMcDALcDAL FINAL FORMdISOLATED FORMdWITH DOT BELOW
fBELOW AND SMALL TAHeFOUR DOTS ABOVEeINVERTED SMALL V BELOWfVeRINGeTHREE DOTS ABOVE DOWNWARDSgBELOW
eTWO DOTS VERTICALLY BELOW AND SMALL TAHcDDAHALcDDAHAL FINAL FORMdISOLATED FORMcDDALcDDAL FINAL FORMdISOLATED FORM
cDOTLESS BEHdFEHdQAFcDULcDUL FINAL FORMdISOLATED FORMcDYEHcDYEH FINAL FORMdINITIAL FORMdISOLATED FORMdMEDIAL FORMcE
cE FINAL FORMdINITIAL FORMdISOLATED FORMdMEDIAL FORMcFARSI YEHdYEH FINAL FORMeINITIAL FORMeISOLATED FORMeMEDIAL FORM
eWITH EXTENDED ARABIC-INDIC DIGIT FOUR BELOWjTHREE ABOVEjTWO ABOVEfINVERTED VfTHREE DOTS ABOVEfTWO DOTS ABOVEcFEH
cFEH FINAL FORMdINITIAL FORMdISOLATED FORMdMEDIAL FORMdWITH DOT BELOWfBELOW AND THREE DOTS ABOVEfMOVED BELOW
eTHREE DOTS BELOWgPOINTING UPWARDS BELOWeTWO DOTS BELOWcGAFcGAF FINAL FORMdINITIAL FORMdISOLATED FORMdMEDIAL FORM
dWITH INVERTED STROKEeRINGeTHREE DOTS ABOVEeTWO DOTS BELOWcGHAINcGHAIN FINAL FORMdINITIAL FORMdISOLATED FORM
dMEDIAL FORMdWITH DOT BELOWeTHREE DOTS ABOVEcGRAFcGUEHcGUEH FINAL FORMdINITIAL FORMdISOLATED FORMdMEDIAL FORMcHAH
cHAH FINAL FORMdINITIAL FORMdISOLATED FORMdMEDIAL FORMdWITH EXTENDED ARABIC-INDIC DIGIT FOUR BELOWeHAMZA ABOVE
eINVERTED SMALL V BELOWeSMALL ARABIC LETTER TAH ABOVEiAND TWO DOTSiBELOWeTHREE DOTS ABOVEgPOINTING UPWARDS BELOW
eTWO DOTS ABOVEgVERTICAL ABOVEcHAMZAcHAMZA ISOLATED FORMcHEHcHEH DOACHASHMEEdDOACHASHMEE FINAL FORMeINITIAL FORM
eISOLATED FORMeMEDIAL FORMdFINAL FORMdGOALdGOAL FINAL FORMeINITIAL FORMeISOLATED FORMeMEDIAL FORMeWITH HAMZA ABOVE
dINITIAL FORMdISOLATED FORMdMEDIAL FORMdWITH INVERTED VeYEH ABOVEfABOVE FINAL FORMgISOLATED FORMcHIGH HAMZAdHAMZA ALEF
eWAWeYEHcJEEMcJEEM FINAL FORMdINITIAL FORMdISOLATED FORMdMEDIAL FORMdWITH THREE DOTS ABOVEgBELOWeTWO DOTS ABOVEcJEH
cJEH FINAL FORMdISOLATED FORMcKAFcKAF FINAL FORMdINITIAL FORMdISOLATED FORMdMEDIAL FORMdWITH DOT ABOVEfBELOWeRING
eTHREE DOTS BELOWeTWO DOTS ABOVEcKASHMIRI YEHcKEHEHcKEHEH FINAL FORMdINITIAL FORMdISOLATED FORMdMEDIAL FORM
dWITH DOT ABOVEeSMALL VeTHREE DOTS ABOVEgBELOWgPOINTING UPWARDS BELOWeTWO DOTS ABOVEgVERTICALLY BELOWcKHAH
cKHAH FINAL FORMdINITIAL FORMdISOLATED FORMdMEDIAL FORMcKIRGHIZ OEdOE FINAL FORMeISOLATED FORMdYUdYU FINAL FORM
eISOLATED FORMcLAMcLAM FINAL FORMdINITIAL FORMdISOLATED FORMdMEDIAL FORMdWITH BAReDOT ABOVEeDOUBLE BAR
eSMALL ARABIC LETTER TAH ABOVEfVeTHREE DOTS ABOVEgBELOWcLOW ALEFcMARKcMEEMcMEEM FINAL FORMdINITIAL FORMdISOLATED FORM
dMEDIAL FORMdWITH DOT ABOVEfBELOWeTHREE DOTS ABOVEcNGcNG FINAL FORMdINITIAL FORMdISOLATED FORMdMEDIAL FORMcNGOEH
cNGOEH FINAL FORMdINITIAL FORMdISOLATED FORMdMEDIAL FORMcNOONcNOON FINAL FORMdGHUNNAdGHUNNA FINAL FORMeISOLATED FORM
dINITIAL FORMdISOLATED FORMdMEDIAL FORMdWITH DOT BELOWeINVERTED SMALL VeRINGeSMALL TAHfVeTHREE DOTS ABOVE
eTWO DOTS BELOWcNYEHcNYEH FINAL FORMdINITIAL FORMdISOLATED FORMdMEDIAL FORMcOEcOE FINAL FORMdISOLATED FORMcPEH
cPEH FINAL FORMdINITIAL FORMdISOLATED FORMdMEDIAL FORMdWITH SMALL MEEM ABOVEfVcPEHEHcPEHEH FINAL FORMdINITIAL FORM
dISOLATED FORMdMEDIAL FORMcQAFcQAF FINAL FORMdINITIAL FORMdISOLATED FORMdMEDIAL FORMdWITH DOT ABOVEfBELOW
fBELOW AND NO DOTS ABOVEeTHREE DOTS ABOVEcREHcREH FINAL FORMdISOLATED FORMdWITH DOT BELOWfBELOW AND DOT ABOVE
eFOUR DOTS ABOVEeHAMZA ABOVEeINVERTED VeLOOPeRINGeSMALL ARABIC LETTER TAH AND TWO DOTSfNOON ABOVEfVfV BELOWeSTROKE
eTWO DOTS ABOVEgVERTICALLY ABOVEcRNOONcRNOON FINAL FORMdINITIAL FORMdISOLATED FORMdMEDIAL FORMcROHINGYA YEHcRREH
cRREH FINAL FORMdISOLATED FORMcSADcSAD FINAL FORMdINITIAL FORMdISOLATED FORMdMEDIAL FORMdWITH THREE DOTS ABOVEgBELOW
eTWO DOTS BELOWcSEENcSEEN FINAL FORMdINITIAL FORMdISOLATED FORMdMEDIAL FORMdWITH DOT BELOW AND DOT ABOVE
eEXTENDED ARABIC-INDIC DIGIT FOUR ABOVEeFOUR DOTS ABOVEeINVERTED VeSMALL ARABIC LETTER TAH AND TWO DOTS
eTHREE DOTS BELOWgBELOW AND THREE DOTS ABOVEeTWO DOTS VERTICALLY ABOVEcSHEENcSHEEN FINAL FORMdINITIAL FORM
dISOLATED FORMdMEDIAL FORMdWITH DOT BELOWcSTRAIGHT WAWcSUPERSCRIPT ALEFcSWASH KAFcTAHcTAH FINAL FORMdINITIAL FORM
dISOLATED FORMdMEDIAL FORMdWITH DOT BELOWeTHREE DOTS ABOVEgBELOWeTWO DOTS ABOVEcTCHEHcTCHEH FINAL FORMdINITIAL FORM
dISOLATED FORMdMEDIAL FORMdWITH DOT ABOVEeSMALL VcTCHEHEHcTCHEHEH FINAL FORMdINITIAL FORMdISOLATED FORMdMEDIAL FORM
cTEHcTEH FINAL FORMdINITIAL FORMdISOLATED FORMdMARBUTAdMARBUTA FINAL FORMeGOALeISOLATED FORMdMEDIAL FORMdWITH RING
eSMALL TEH ABOVEfVeTHREE DOTS ABOVE DOWNWARDScTEHEHcTEHEH FINAL FORMdINITIAL FORMdISOLATED FORMdMEDIAL FORMcTHAL
cTHAL FINAL FORMdISOLATED FORMcTHEHcTHEH FINAL FORMdINITIAL FORMdISOLATED FORMdMEDIAL FORMcTHIN YEHcTTEH
cTTEH FINAL FORMdINITIAL FORMdISOLATED FORMdMEDIAL FORMdWITH SMALL VcTTEHEHcTTEHEH FINAL FORMdINITIAL FORM
dISOLATED FORMdMEDIAL FORMcUcU FINAL FORMdISOLATED FORMdWITH HAMZA ABOVEfABOVE ISOLATED FORM
cUIGHUR KAZAKH KIRGHIZ ALEF MAKSURA INITIAL FORMhMEDIAL FORMcVEcVE FINAL FORMdISOLATED FORMcVEHcVEH FINAL FORM
dINITIAL FORMdISOLATED FORMdMEDIAL FORMcWAWcWAW FINAL FORMdISOLATED FORMdWITH DOT ABOVEfWITHIN
eEXTENDED ARABIC-INDIC DIGIT THREE ABOVEiTWO ABOVEeHAMZA ABOVEfABOVE FINAL FORMgISOLATED FORMeRINGeTWO DOTS ABOVEcYEH
cYEH BARREEdBARREE FINAL FORMeISOLATED FORMeWITH EXTENDED ARABIC-INDIC DIGIT THREE ABOVEjTWO ABOVEfHAMZA ABOVE
gABOVE FINAL FORMhISOLATED FORMdFINAL FORMdINITIAL FORMdISOLATED FORMdMEDIAL FORMdWITH HAMZA ABOVEfABOVE FINAL FORM
gINITIAL FORMgISOLATED FORMgMEDIAL FORMeSMALL VeTAILeTHREE DOTS BELOWeTWO DOTS BELOW AND DOT ABOVEiHAMZA ABOVE
iSMALL NOON ABOVEcYUcYU FINAL FORMdISOLATED FORMcZAHcZAH FINAL FORMdINITIAL FORMdISOLATED FORMdMEDIAL FORMcZAIN
cZAIN FINAL FORMdISOLATED FORMdWITH INVERTED V ABOVEbLIGATURE AIN WITH ALEF MAKSURA FINAL FORMgISOLATED FORM
eJEEM INITIAL FORMfISOLATED FORMfWITH MEEM FINAL FORMhINITIAL FORMeMEEM INITIAL FORMfISOLATED FORM
fWITH ALEF MAKSURA FINAL FORMgMEEM FINAL FORMhINITIAL FORMgYEH FINAL FORMeYEH FINAL FORMfISOLATED FORM
cAKBAR ISOLATED FORMcALAYHAA AS-SALAAMcALAYHE ISOLATED FORMcALAYHI AS-SALAAMeSALAATU WAS-SALAAMcALAYHIM AS-SALAAM
cALAYHIMAA AS-SALAAMcALEF MAKSURA WITH SUPERSCRIPT ALEF FINAL FORMhISOLATED FORMdWITH FATHATAN FINAL FORM
fISOLATED FORMcALLAH ISOLATED FORMcAZZA WA JALLcBEH WITH ALEF MAKSURA FINAL FORMgISOLATED FORMeHAH INITIAL FORM
fISOLATED FORMfWITH YEH FINAL FORMeHEH INITIAL FORMfMEDIAL FORMeJEEM INITIAL FORMfISOLATED FORMeKHAH INITIAL FORM
fISOLATED FORMfWITH YEH FINAL FORMeMEEM FINAL FORMfINITIAL FORMfISOLATED FORMfMEDIAL FORMeNOON FINAL FORM
eREH FINAL FORMeYEH FINAL FORMfISOLATED FORMeZAIN FINAL FORMcBISMILLAH AR-RAHMAN AR-RAHEEM
cDAD WITH ALEF MAKSURA FINAL FORMgISOLATED FORMeHAH INITIAL FORMfISOLATED FORMfWITH ALEF MAKSURA FINAL FORM
gYEH FINAL FORMeJEEM INITIAL FORMfISOLATED FORMeKHAH INITIAL FORMfISOLATED FORMfWITH MEEM FINAL FORMhINITIAL FORM
eMEEM INITIAL FORMfISOLATED FORMeREH FINAL FORMfISOLATED FORMeYEH FINAL FORMfISOLATED FORM
cFEH WITH ALEF MAKSURA FINAL FORMgISOLATED FORMeHAH INITIAL FORMfISOLATED FORMeJEEM INITIAL FORMfISOLATED FORM
eKHAH INITIAL FORMfISOLATED FORMfWITH MEEM FINAL FORMhINITIAL FORMeMEEM INITIAL FORMfISOLATED FORMfWITH YEH FINAL FORM
eYEH FINAL FORMfISOLATED FORMcGHAIN WITH ALEF MAKSURA FINAL FORMgISOLATED FORMeJEEM INITIAL FORMfISOLATED FORM
eMEEM INITIAL FORMfISOLATED FORMfWITH ALEF MAKSURA FINAL FORMgMEEM FINAL FORMgYEH FINAL FORMeYEH FINAL FORM
fISOLATED FORMcHAH WITH ALEF MAKSURA FINAL FORMgISOLATED FORMeJEEM INITIAL FORMfISOLATED FORMfWITH YEH FINAL FORM
eMEEM INITIAL FORMfISOLATED FORMfWITH ALEF MAKSURA FINAL FORMgYEH FINAL FORMeYEH FINAL FORMfISOLATED FORM
cHEH WITH ALEF MAKSURA ISOLATED FORMeJEEM INITIAL FORMfISOLATED FORMeMEEM INITIAL FORMfISOLATED FORM
fWITH JEEM INITIAL FORMgMEEM INITIAL FORMeSUPERSCRIPT ALEF INITIAL FORMeYEH ISOLATED FORMcJALLAJALALOUHOU
cJEEM WITH ALEF MAKSURA FINAL FORMgISOLATED FORMeHAH INITIAL FORMfISOLATED FORMfWITH ALEF MAKSURA FINAL FORM
gYEH FINAL FORMeMEEM INITIAL FORMfISOLATED FORMfWITH ALEF MAKSURA FINAL FORMgHAH FINAL FORMhINITIAL FORM
gYEH FINAL FORMeYEH FINAL FORMfISOLATED FORMcKAF WITH ALEF FINAL FORMfISOLATED FORMfMAKSURA FINAL FORMgISOLATED FORM
eHAH INITIAL FORMfISOLATED FORMeJEEM INITIAL FORMfISOLATED FORMeKHAH INITIAL FORMfISOLATED FORMeLAM FINAL FORM
fINITIAL FORMfISOLATED FORMfMEDIAL FORMeMEEM FINAL FORMfINITIAL FORMfISOLATED FORMfMEDIAL FORMfWITH MEEM FINAL FORM
hINITIAL FORMgYEH FINAL FORMeYEH FINAL FORMfISOLATED FORMcKHAH WITH ALEF MAKSURA FINAL FORMgISOLATED FORM
eHAH ISOLATED FORMeJEEM INITIAL FORMfISOLATED FORMeMEEM INITIAL FORMfISOLATED FORMeYEH FINAL FORMfISOLATED FORM
cLAM WITH ALEF FINAL FORMfISOLATED FORMfMAKSURA FINAL FORMgISOLATED FORMfWITH HAMZA ABOVE FINAL FORMiISOLATED FORM
hBELOW FINAL FORMiISOLATED FORMgMADDA ABOVE FINAL FORMiISOLATED FORMeHAH INITIAL FORMfISOLATED FORM
fWITH ALEF MAKSURA FINAL FORMgMEEM FINAL FORMhINITIAL FORMgYEH FINAL FORMeHEH INITIAL FORMeJEEM INITIAL FORM
fISOLATED FORMfWITH JEEM FINAL FORMhINITIAL FORMgMEEM FINAL FORMhINITIAL FORMgYEH FINAL FORMeKHAH INITIAL FORM
fISOLATED FORMfWITH MEEM FINAL FORMhINITIAL FORMeMEEM FINAL FORMfINITIAL FORMfISOLATED FORMfMEDIAL FORM
fWITH HAH FINAL FORMhINITIAL FORMgYEH FINAL FORMeYEH FINAL FORMfISOLATED FORMcMEEM WITH ALEF FINAL FORM
fMAKSURA ISOLATED FORMeHAH INITIAL FORMfISOLATED FORMfWITH JEEM INITIAL FORMgMEEM INITIAL FORMgYEH FINAL FORM
eJEEM INITIAL FORMfISOLATED FORMfWITH HAH INITIAL FORMgKHAH INITIAL FORMgMEEM INITIAL FORMgYEH FINAL FORM
eKHAH INITIAL FORMfISOLATED FORMfWITH JEEM INITIAL FORMgMEEM INITIAL FORMgYEH FINAL FORMeMEEM FINAL FORMfINITIAL FORM
fISOLATED FORMfWITH YEH FINAL FORMeYEH ISOLATED FORMcMOHAMMAD ISOLATED FORMcNOON WITH ALEF MAKSURA FINAL FORM
gISOLATED FORMeHAH INITIAL FORMfISOLATED FORMfWITH ALEF MAKSURA FINAL FORMgMEEM INITIAL FORMgYEH FINAL FORM
eHEH INITIAL FORMfMEDIAL FORMeJEEM INITIAL FORMfISOLATED FORMfWITH ALEF MAKSURA FINAL FORMgHAH FINAL FORMhINITIAL FORM
gMEEM FINAL FORMhINITIAL FORMgYEH FINAL FORMeKHAH INITIAL FORMfISOLATED FORMeMEEM FINAL FORMfINITIAL FORM
fISOLATED FORMfMEDIAL FORMfWITH ALEF MAKSURA FINAL FORMgYEH FINAL FORMeNOON FINAL FORMeREH FINAL FORMeYEH FINAL FORM
fISOLATED FORMeZAIN FINAL FORMcQAF WITH ALEF MAKSURA FINAL FORMgISOLATED FORMeHAH INITIAL FORMfISOLATED FORM
eMEEM INITIAL FORMfISOLATED FORMfWITH HAH FINAL FORMhINITIAL FORMgMEEM FINAL FORMgYEH FINAL FORMeYEH FINAL FORM
fISOLATED FORMcQALA USED AS KORANIC STOP SIGN ISOLATED FORMcQUDDISA SIRRAHcRADI ALLAAHU ANHeANHAAeANHUMeANHUMAA
eANHUNNAcRAHIMAHU ALLAAHcRAHIMAHUM ALLAAHcRASOUL ISOLATED FORMcREH WITH SUPERSCRIPT ALEF ISOLATED FORM
cSAD WITH ALEF MAKSURA FINAL FORMgISOLATED FORMeHAH INITIAL FORMfISOLATED FORMfWITH HAH FINAL FORMhINITIAL FORM
gYEH FINAL FORMeKHAH INITIAL FORMeMEEM INITIAL FORMfISOLATED FORMfWITH MEEM FINAL FORMhINITIAL FORMeREH FINAL FORM
fISOLATED FORMeYEH FINAL FORMfISOLATED FORMcSALAAMUHU ALAYNAAcSALAM ISOLATED FORMcSALLA ISOLATED FORM
dUSED AS KORANIC STOP SIGN ISOLATED FORMcSALLALLAAHU ALAYHI WA-AALIHcSALLALLAHOU ALAYHE WASALLAM
cSALLALLAHU ALAYHI WAAALIHEE WA-SALLAMcSEEN WITH ALEF MAKSURA FINAL FORMgISOLATED FORMeHAH INITIAL FORMfISOLATED FORM
fMEDIAL FORMfWITH JEEM INITIAL FORMeHEH INITIAL FORMfMEDIAL FORMeJEEM INITIAL FORMfISOLATED FORMfMEDIAL FORM
fWITH ALEF MAKSURA FINAL FORMgHAH INITIAL FORMeKHAH INITIAL FORMfISOLATED FORMfMEDIAL FORM
fWITH ALEF MAKSURA FINAL FORMgYEH FINAL FORMeMEEM INITIAL FORMfISOLATED FORMfMEDIAL FORMfWITH HAH FINAL FORM
hINITIAL FORMgJEEM INITIAL FORMgMEEM FINAL FORMhINITIAL FORMeREH FINAL FORMfISOLATED FORMeYEH FINAL FORMfISOLATED FORM
cSHADDA WITH DAMMA ISOLATED FORMfMEDIAL FORMeDAMMATAN ISOLATED FORMeFATHA ISOLATED FORMfMEDIAL FORM
eKASRA ISOLATED FORMfMEDIAL FORMeKASRATAN ISOLATED FORMeSUPERSCRIPT ALEF ISOLATED FORM
cSHEEN WITH ALEF MAKSURA FINAL FORMgISOLATED FORMeHAH FINAL FORMfINITIAL FORMfISOLATED FORMfMEDIAL FORM
fWITH MEEM FINAL FORMhINITIAL FORMgYEH FINAL FORMeHEH INITIAL FORMfMEDIAL FORMeJEEM FINAL FORMfINITIAL FORM
fISOLATED FORMfMEDIAL FORMfWITH YEH FINAL FORMeKHAH FINAL FORMfINITIAL FORMfISOLATED FORMfMEDIAL FORMeMEEM FINAL FORM
fINITIAL FORMfISOLATED FORMfMEDIAL FORMfWITH KHAH FINAL FORMhINITIAL FORMgMEEM FINAL FORMhINITIAL FORMeREH FINAL FORM
fISOLATED FORMeYEH FINAL FORMfISOLATED FORMcSUBHAANAHU WA TAAALAAcTABAARAKA WA-TAAALAA
cTAH WITH ALEF MAKSURA FINAL FORMgISOLATED FORMeHAH INITIAL FORMfISOLATED FORMeMEEM INITIAL FORMfISOLATED FORM
fMEDIAL FORMfWITH HAH FINAL FORMhINITIAL FORMgMEEM INITIAL FORMgYEH FINAL FORMeYEH FINAL FORMfISOLATED FORM
cTEH WITH ALEF MAKSURA FINAL FORMgISOLATED FORMeHAH INITIAL FORMfISOLATED FORMfWITH JEEM FINAL FORMhINITIAL FORM
gMEEM INITIAL FORMeHEH INITIAL FORMfMEDIAL FORMeJEEM INITIAL FORMfISOLATED FORMfWITH ALEF MAKSURA FINAL FORM
gMEEM INITIAL FORMgYEH FINAL FORMeKHAH INITIAL FORMfISOLATED FORMfWITH ALEF MAKSURA FINAL FORMgMEEM INITIAL FORM
gYEH FINAL FORMeMEEM FINAL FORMfINITIAL FORMfISOLATED FORMfMEDIAL FORMfWITH ALEF MAKSURA FINAL FORMgHAH INITIAL FORM
gJEEM INITIAL FORMgKHAH INITIAL FORMgYEH FINAL FORMeNOON FINAL FORMeREH FINAL FORMeYEH FINAL FORMfISOLATED FORM
eZAIN FINAL FORMcTHAL WITH SUPERSCRIPT ALEF ISOLATED FORMcTHEH WITH ALEF MAKSURA FINAL FORMgISOLATED FORM
eHEH MEDIAL FORMeJEEM ISOLATED FORMeMEEM FINAL FORMfINITIAL FORMfISOLATED FORMfMEDIAL FORMeNOON FINAL FORM
eREH FINAL FORMeYEH FINAL FORMfISOLATED FORMeZAIN FINAL FORM
cUIGHUR KIRGHIZ YEH WITH HAMZA ABOVE WITH ALEF MAKSURA FINAL FORMlINITIAL FORMlISOLATED FORMcWASALLAM ISOLATED FORM
cYEH WITH ALEF MAKSURA FINAL FORMgISOLATED FORMeHAH INITIAL FORMfISOLATED FORMfWITH YEH FINAL FORM
eHAMZA ABOVE WITH AE FINAL FORMiISOLATED FORMhALEF FINAL FORMiISOLATED FORMiMAKSURA FINAL FORMjISOLATED FORM
hE FINAL FORMiINITIAL FORMiISOLATED FORMhHAH INITIAL FORMiISOLATED FORMhHEH INITIAL FORMiMEDIAL FORMhJEEM INITIAL FORM
iISOLATED FORMhKHAH INITIAL FORMhMEEM FINAL FORMiINITIAL FORMiISOLATED FORMiMEDIAL FORMhNOON FINAL FORMhOE FINAL FORM
iISOLATED FORMhREH FINAL FORMhU FINAL FORMiISOLATED FORMhWAW FINAL FORMiISOLATED FORMhYEH FINAL FORMiISOLATED FORM
hYU FINAL FORMiISOLATED FORMhZAIN FINAL FORMeHEH INITIAL FORMfMEDIAL FORMeJEEM INITIAL FORMfISOLATED FORM
fWITH YEH FINAL FORMeKHAH INITIAL FORMfISOLATED FORMeMEEM FINAL FORMfINITIAL FORMfISOLATED FORMfMEDIAL FORM
fWITH MEEM FINAL FORMhINITIAL FORMgYEH FINAL FORMeNOON FINAL FORMeREH FINAL FORMeYEH FINAL FORMfISOLATED FORM
eZAIN FINAL FORMcZAH WITH MEEM INITIAL FORMfISOLATED FORMfMEDIAL FORMbMADDA WAAJIBbMADDAH ABOVEbMARK NOON GHUNNA
cSIDEWAYS NOON GHUNNAbMATHEMATICAL AINcALEFcBEHcDADcDALcDOTLESS BEHdFEHdNOONdQAFcDOUBLE-STRUCK AINeBEHeDADeDALeFEH
eGHAINeHAHeJEEMeKHAHeLAMeMEEMeNOONeQAFeREHeSADeSEENeSHEENeTAHeTEHeTHALeTHEHeWAWeYEHeZAHeZAINcFEHcGHAINcHAHcINITIAL AIN
dBEHdDADdFEHdGHAINdHAHdHEHdJEEMdKAFdKHAHdLAMdMEEMdNOONdQAFdSADdSEENdSHEENdTEHdTHEHdYEHcJEEMcKAFcKHAHcLAMcLOOPED AIN
dALEFdBEHdDADdDALdFEHdGHAINdHAHdHEHdJEEMdKHAHdLAMdMEEMdNOONdQAFdREHdSADdSEENdSHEENdTAHdTEHdTHALdTHEHdWAWdYEHdZAHdZAIN
cMEEMcNOONcOPERATOR HAH WITH DALdMEEM WITH HAH WITH TATWEELcQAFcREHcSADcSEENcSHEENcSTRETCHED AINdBEHdDADdDOTLESS BEH
eFEHdFEHdGHAINdHAHdHEHdJEEMdKAFdKHAHdMEEMdNOONdQAFdSADdSEENdSHEENdTAHdTEHdTHEHdYEHdZAHcTAHcTAILED AINdDADdDOTLESS NOON
eQAFdGHAINdHAHdJEEMdKHAHdLAMdNOONdQAFdSADdSEENdSHEENdYEHcTEHcTHALcTHEHcWAWcYEHcZAHcZAINbNUMBER MARK ABOVEcSIGN
bOPEN DAMMATANcFATHATANcKASRATANbPERCENT SIGNbPIASTRE MARK ABOVEbPLACE OF SAJDAHbPOETIC VERSE SIGNbPOUND MARK ABOVE
bQUESTION MARKbRAISED ROUND DOTbRAYbREVERSED DAMMAbRIGHT ARROWHEAD ABOVEdABOVE WITH DOTdBELOW
bROUNDED HIGH STOP WITH FILLED CENTREbSEMICOLONbSHADDAbSHADDA ISOLATED FORMcMEDIAL FORMbSIGN ALAYHE ASSALLAMcMISRA
cRADI ALLAHOU ANHUcRAHMATULLAH ALAYHEcSAFHAcSALLALLAHOU ALAYHE WASSALLAMcSAMVATcSANAHcSINDHI AMPERSAND
dPOSTPOSITION MENcTAKHALLUSbSMALL DAMMAcFARSI YEHcFATHAcHIGH AINdDOTLESS HEAD OF KHAHdFARSI YEHdFOOTNOTE MARKERdJEEM
dLAM ALEFdLIGATURE ALEF WITH LAM WITH YEHeQAF WITH LAM WITH ALEF MAKSURAeSAD WITH LAM WITH ALEF MAKSURAdMADDA
dMEEM INITIAL FORMeISOLATED FORMdNOONdNOON WITH KASRAdQAFdROUNDED ZEROdSADdSEENdSIGN SAFHAdTAHdTHREE DOTS
dUPRIGHT RECTANGULAR ZEROdWAWdWORD AL-JUZeAN-NISFeAR-RUBeAS-SAJDAeATH-THALATHAeQIFeSAHeSAKTAeWAQFAdYEH
dYEH BARREE WITH TWO DOTS BELOWdZAHdZAINcKASRAcLOW MEEMdNOON WITH KASRAdSEENdWAWdWORD IMAALAeISHMAAMeTASHEELcWAWcYEH
bSTART OF RUB EL HIZBbSUBSCRIPT ALEFbSUKUNbSUKUN BELOWcISOLATED FORMcMEDIAL FORMbSUPERSCRIPT ALEF MOKHASSAS
bSYMBOL DOT ABOVEdBELOWcDOUBLE VERTICAL BAR BELOWcFOUR DOTS ABOVEeBELOWcRINGcSMALL TAH ABOVEeBELOWcTHREE DOTS ABOVE
eBELOWePOINTING DOWNWARDS ABOVEgBELOWcTWO DOTS ABOVEeBELOWeVERTICALLY ABOVEfBELOWcWASLA ABOVEbTAIL FRAGMENTbTATWEEL
bTATWEEL WITH FATHATAN ABOVEdOVERSTRUCK HAMZAeWAWdTWO DOTS BELOWbTHOUSANDS SEPARATORbTONE LOOP ABOVEdBELOW
cONE DOT ABOVEeBELOWcTWO DOTS ABOVEeBELOWbTRIPLE DOT PUNCTUATION MARKbTURNED DAMMA BELOWbVERTICAL TAIL
bVOWEL SIGN DOT BELOWdINVERTED SMALL V ABOVEdSMALL V ABOVEbWAVY HAMZA BELOWbZWARAKAYaARABIC-INDIC CUBE ROOT
cDIGIT EIGHTdFIVEdFOURdNINEdONEdSEVENdSIXdTHREEdTWOdZEROcFOURTH ROOTcPER MILLE SIGNdTEN THOUSAND SIGNaARCaARIES
aARMENIAN ABBREVIATION MARKbAPOSTROPHEbCAPITAL LETTER AYBdBENdCAdCHAdCHEHdCOdDAdECHdEHdETdFEHdGHADdGIMdHOdINIdJAdJHEH
dKEHdKENdLIWNdMENdNOWdOHdPEHdPIWRdRAdREHdSEHdSHAdTIWNdTOdVEWdVOdXEHdYIdYIWNdZAdZHEbCOMMAbDRAM SIGNbEMPHASIS MARK
bEXCLAMATION MARKbFULL STOPbHYPHENbMODIFIER LETTER LEFT HALF RINGbQUESTION MARKbSMALL LETTER AYBdBENdCAdCHAdCHEHdCOdDA
dECHdEHdETdFEHdGHADdGIMdHOdINIdJAdJHEHdKEHdKENdLIWNdMENdNOWdOHdPEHdPIWRdRAdREHdSEHdSHAdTIWNdTOdTURNED AYBdVEWdVOdXEH
dYIdYI WITH STROKEdYIWNdZAdZHEcLIGATURE ECH YIWNdMEN ECHeINIeNOWeXEHdVEW NOW
aARROW POINTING DOWNWARDS THEN CURVING LEFTWARDSfRIGHTWARDScRIGHTWARDS THEN CURVING DOWNWARDSfSOUTH WESTfUPWARDS
cUPWARDS THEN NORTH WESTaARROWHEAD-SHAPED POINTERaARTICULATED LORRYaARTIST PALETTEaASCENDING NODEaASCIA SYMBOL
aASSERTIONaASTERISKaASTERISK OPERATORaASTERISMaASTONISHED FACEaASTRAEAaASTRONOMICAL SYMBOL FOR URANUS
aASYMPTOTICALLY EQUAL TOaATHLETIC SHOEaATOM SYMBOLaAUBERGINEaAUSTRAL SIGNaAUTO RICKSHAWaAUTOMATED TELLER MACHINE
aAUTOMOBILEaAVESTAN ABBREVIATION MARKbLETTER AcAAcAANcAAOcAEcAEEcANcAOcBEcBHEcCEcDEcDHEcEcEEcFEcGEcGGEcGHEcHEcHMEcIcII
cJEcKEcLEcMEcNEcNGEcNGVEcNGYEcNNEcNYEcOcOOcPEcREcSEcSHEcSHYEcSSHEcTEcTHEcTTEcUcUUcVEcXEcXVEcXYEcYEcYYEcZEcZHEaAVOCADO
aAXEaBABYaBABY ANGELbBOTTLEbCHICKbSYMBOLaBACK OF ENVELOPEbWITH LEFTWARDS ARROW ABOVE
aBACK-TILTED SHADOWED WHITE RIGHTWARDS ARROWaBACKSLANTED SOUTH ARROW WITH HOOKED TAILeHORIZONTAL TAILaBACKSPACEaBACON
aBACTRIAN CAMELaBADGERaBADMINTON RACQUET AND SHUTTLECOCKaBAGELaBAGGAGE CLAIMaBAGUETTE BREADaBALINESE ADEG ADEG
bCARIK PAMUNGKAHcPARERENcSIKIbDIGIT EIGHTcFIVEcFOURcNINEcONEcSEVENcSIXcTHREEcTWOcZERObLETTER AIKARAcAKARAcAKARA TEDUNG
cARCHAIC JNYAcASYURA SASAKcBAcBA KEMBANGcCAcCA LACAcDAcDA MADUdMURDA ALPAPRANAeMAHAPRANAcEF SASAKcEKARAcGAcGA GORAcHA
cIKARAcIKARA TEDUNGcJAcJA JERAcKAcKA MAHAPRANAcKAF SASAKcKHOT SASAKcLAcLA LENGAdLENGA TEDUNGcMAcNAcNA RAMBATcNGAcNYA
cOKARAcOKARA TEDUNGcPAcPA KAPALcRAcRA REPAdREPA TEDUNGcSAcSA SAGAdSAPAcTAcTA LATIKdMURDA MAHAPRANAdTAWAcTZIR SASAK
cUKARAcUKARA TEDUNGcVE SASAKcWAcYAcZAL SASAKbMUSICAL SYMBOL COMBINING BENDEeENDEPeGONGeJEGOGANeKEMPLI
eKEMPLI WITH JEGOGANeKEMPULeKEMPUL WITH JEGOGANeTEGEHdDAENGdDAINGdDANGdDANG GEDEeSURANGdDENGdDEUNGdDINGdDONGdDUNG
dLEFT-HAND CLOSED PLAKgPLUKfOPEN PANGgPINGgPUNGdRIGHT-HAND CLOSED TAKgTUKfOPEN DAGgDUGbPAMADAbPAMADA LANTANGbPAMENENG
bPANTIbPANTI LANTANGbSIGN BISAHcCECEKcREREKANcSURANGcULU CANDRAdRICEMbVOWEL SIGN LA LENGAeLENGA TEDUNGdPEPET
dPEPET TEDUNGdRA REPAeREPA TEDUNGdSUKUdSUKU ILUTdTALINGdTALING REPAeREPA TEDUNGeTEDUNGdTEDUNGdULUdULU SARIbWINDU
aBALL OF YARNaBALLET SHOESaBALLOONaBALLOON-SPOKED ASTERISKaBALLOT BOLD SCRIPT XbBOXbBOX WITH BALLOTdBOLD CHECK
eSCRIPT XdCHECKdLIGHT XdSCRIPT XdXbSCRIPT XbXaBAMUM COLONbCOMBINING MARK KOQNDONdTUKWENTISbCOMMAbFULL STOPbLETTER AcEE
cFAAMAEcFEEcFOMcFUcIcKAcKENcKETcKEUXcKIcKOcKOGHOMcKOVUUcKPAcKUcKYEEcLAcLEEEEcLIcLOQcLUcMcMAcMBAAcMBENcMEEEEcMENcMIcMO
cMUcNAcNDAAcNGAcNGGAcNGKWAENcNIcNJAEMcNJEEcNJUAEcNSHAcNTEEcNTUUcNUcNUAEcNYIcOcPAcPEEcPEUXcPHASE-A FIRIeGBIEE FON
eGHEUAEGHEUAEeGHEUAERAEeKAFAeKAQeKETeKEUKEUTNDAeKPOQeKUOQeLAPAQeLET KUTeLOMMAEeLUeLUAEPeMAEKEUPeMAEMeMAEMBGBIEE
eMAEMKPENeMAEMVEUXeMAENYIeMAESIeMANSUAEeMAP PIEETeMBANYIeMBAQeMEUNJOMNDEUQeMGBASAeMON NGGEUAETeMOOMEUTeMOOMPUQ
eMVEUAENGAMeNAA MFONeNAQeNDA LEERAEWAeNDAANGGEUAETeNENeNGANGUeNGGENeNGKUE MFONeNGKUENZEUMeNIKAeNJAMeNKAARAEeNKINDI
eNSHAeNSHIEEeNTAPeNTAP MFAAfNTAAeNTOQPENeNYETeNYIeNYIT MONGKEUAEQeNZA MFONeNZUN MEUTePA LEERAEWAePAAMePAARAEePAMSHAE
ePASHAEePETePON MFON PIPAEMBAgPIPAEMGBIEEfPA NJI PIPAEMBAhPIPAEMGBIEEePUPeROMeSEUNYAMeSHINDA PA NJIeSHIRAE
eSHOQ NSHUT YUMeSHUENSHUETeSHUMeSISAeSONJAMeSOQeSOTeSUUeTEUAENeTEUTEUWENeTITA MFONeTU MAEMBAeTUAEPeU YUQ NAEeUNKNOWN
eVEEdB FEEeFEUXeGHEUGHENeGHEUGHEUAEMeKAMeKEUAEMeKEUPUQeKEUYEUXeKIEEMeKIQeLAANAEeLAM NSHUT NYAMeLETeLOM NTEUMeMA
eMA NJEUAENAfNJUQAeMBA MAELEEeMBAARAEeMBEURIeMBIT MBAAKETeMBUOQeMEUQeMEUT NGGEETeMFIYAQeMFON TEUAEQeMONTIEENeNDU NJAA
eNGGAAMeNGGEU MBUeNGGUOQeNGGUOQ LARGEeNGKINDI MVOPeNGOMeNSENeNSHUETeNTIEE SHEUOQeNYAEMAEeNYI NTEUMePARUMePEESHIePIT
ePUNGAAMeSAKEUAEeSET TUeSHET NJAQeSHEUAEQTUeSIEEeSUEeTAAMeTU MAEMGBIEEfNSIEEeVEUMeWUAETeYAFU LEERAEWAeYEURAEdC BUNG
eFUEeGBAYIeGHAPeGHARAEeKAAeKEN FATIGUEfLAWeKETeKEUKAQeKEUMeKEUSEUXeKEUSHEUAEPeKPARAQeKUOP NKAARAEeKUTeLAMeLAPeLIQeLU
eMA KEUAERIfNSIEEeMAEMBAeMAESIeMBAA CABBAGE-TREEfPICKETeMBANYIeMBEEKEETeMBERAEeMBEUMeMBEUXeMBIeMBIRIEENeMBITeMBUAEM
eMBUEeMGBASAQeMIEEeMUAEeNANSANAQeNAQeNDAMeNDAPeNDEUAEREEeNDEUTeNDIDAeNDOMBUeNGAQeNGGENeNGGUeNGGUAEN NYAMeNGGUEETeNGGUM
eNGGUONeNGKAQeNGKUE MAEMBAeNGOMeNJAEMeNJAMeNJEEEEeNJEUXeNJUEQeNSAeNSEUAENeNSHAQeNSOMeNSUNeNSUOT NGOMeNTAAeNTEN
eNTEUNGBAeNTU MBITeNYIR MKPARAQ MEUNeNZAeNZEUMePENePINePIRIEENeRUeSETFONeSEUXeSHIQeSHUEQeSUAETeTAASHAEeTETeTEUTEUX
eTITA YUEeTITUAEPeVEUAEPENeVEUXeWANGKUOQeWUPeYAAeYEUQeYU MUOMAEeYUMeYUWOQdD FAAeFEUFEUAETeGHAAeGHEUAEeKETeKEUAETMEUN
eKEUMeKEUOT MBUAEeKEUPeKUeKUNeKUOMeKUQeKWAETeKYEEeLEEEEeLETeLEUAEPeLEUMeLIEEeLOQeLUMeMeMAENJETeMALEERIeMBAAeMBAA SEVEN
eMBUOeMEEEEeMEUNeMEUTeMFEUAEeMFEUTeMFIEEeMFOeMFONeMGBEUNeMGBIEEeMGBOFUMeMONIeMUeMVOPeNDAMeNDEEeNDEUXeNDONeNGGAAM
eNGGAAMAEeNGGAPeNGGEUXeNGGUOMeNGGWAENeNGKAPeNGKEUAEQeNGKEURIeNGKIEEeNGKUNeNGKYEEeNIeNJAPeNJEUAEMeNJEUTeNJIeNJIEEeNJUEQ
eNSHEEeNSHUTeNSIEEPeNSIEETeNSUMeNTEEeNTEUMeNTUUeNUeNYAMeNYETeNYIeNYUEePAPePEEePEUTAEePIPePUQePUUTeRAEMeREN MUCHfOLD
eRIIeSAPeSAQeSEUAEQeSHEEeSHEUAEeSHEUXeSHIIeSHOQeSHUeSOTeSUAEeSUEeSUUeTAEeTEEEEeTEUAENeTEUNeTEUTeTIeTOQeTUeTUOTeWAP
eWUAENeYAEMMAEeYENeYUOMeYUOPeYUWOQdE AeFAeFAQeFEEeFOMeFU CALLfIfREMEDYeFUEeFUETeGBETeGBEUXeGHAAMAEeGHETeGHEUAEeGHEUN
eGHEUXeGHOMeIeKETeKEUAEeKEUXeKIeKOeKPEUXeKUETeKUOPeKUTeLAAMeLAPeLAQeLEUAEMeLOMeLOONeLOOTeLOQeLUeMAeMAEeMAEMeMAPeMAQ
eMBEEeMBEUMeMENeMFEUQeMGBAeMGBENeMIeMIEEeMONeMUAEeMVIeNAeNAEeNDAA MY HOUSEfSOFTNESSeNDAPeNDIAQeNDIQeNDUNeNGAeNGEUREUT
eNGGEEEEeNGGEUAEeNGGEUAETeNGGUAESHAE NYAMeNGGUPeNGGURAEeNGKAeNGKAAMIeNGKEUAEMeNGKEUXeNGKUMeNGKUPeNGOPeNGOQeNGUAE
eNGUAETeNJAEMLIeNJEEeNJEE EPOCHeNJEUXeNKOMeNSHIEEeNSHUEeNSHUOPeNTAPeNTUMeNYI BETWEENfCLEAVEReNZAQeNZUQeOePA PEOPLE
fPLURALePAAePAAMePEEMePEUTePEUXePIePIEEQePIETePOePOONePUePUAEePUAQePUEePUMeRAEeRAQeREUXeRIMGBAeSAAeSEEeSETeSHEUAEQ
eSHIQeSHOeSHOQeSOMeSUAENeTAAeTAAQeTAEN NTEUMeTAMeTAQeTENeTEUeTEUAEQeTOOeTOONeTOQeTUAEeTUMeTUMAEeVEEeVEUAEeVOMeWEUXeWUE
eWUOeYAPeYEUAEeYEUAETeYEUMeYEUXeYIEEeYITeYOQ COVERfSWIMMINGeYUAENeYUEQeYUNeYUQdF EEeFOMeKAeKENeKETeKOeKPAeKUeKYEEeLA
eLIeLOQeMeMAeMBAAeMBENeMEEEEeMOeNDAAeNGGAeNGKWAENeNIeNJAEMeNJUAEeNSHAeNTEEeNUeNUAEeNYIePEEePEUXePUAEeREEeRENeREUXeRIEE
eRIIeRUeSAMBAeSEUXeSHIIeSHOeSHUeSIeSUUeTAAeTAEeTETeUeVUEQeWAeWUEeYAeYOQcPIcPUAEcPUEcRAEcREEcRENcREUXcRIEEcRIIcRUcSAMBA
cSEUXcSHEUXcSHIIcSHOcSHUcSIcSUUcTAAcTAEcTENcTETcTIcUcWAcWUEcYAcYOQcYUQbNJAEMLIbQUESTION MARKbSEMICOLONaBANANAaBANJO
aBANKaBANKNOTE WITH DOLLAR SIGNcEURO SIGNcPOUND SIGNcYEN SIGNaBAR CHARTbOF SOAPaBARBER POLEaBASEBALLaBASKET
aBASKETBALL AND HOOPaBASSA VAH COMBINING HIGH TONEdHIGH-LOW TONEdLOW TONEdLOW-MID TONEdMID TONEcFULL STOPcLETTER AdBA
dCEdDHIIdDOdEdEEdENNIdFAdGAHdGBUdHWAHdIdJOdKAdKPAHdMBEdOdOOdPAdSEdTOdUdUWUdVUdWAdWADDAdYEINdYIEdZOaBAT
aBATAK CONSONANT SIGN HdNGbLETTER AcBAcCAcDAcGAcHAcIcJAcKARO BAcLAcMAcMANDAILING HAdNAdSAcMBAcNAcNDAcNGAcNORTHERN TA
cNYAcPAcPAKPAK WAcRAcSAcSIMALUNGUN AdGAdHAdLAdMAdPAdRAdSAdWAdYAcSOUTHERN TAcUcWAcYAbPANGOLATbPANONGONANbSIGN TOMPI
bSYMBOL BINDU JUDULdNA METEKdPANGOLATdPINARBORASbVOWEL SIGN EdEEdIdKARO IeOdOdPAKPAK EdUdU FOR SIMALUNGUN SAaBATH
aBATHTUBaBATTERYaBEACH WITH UMBRELLAaBEAMED ASCENDING MUSICAL NOTESbDESCENDING MUSICAL NOTESbEIGHTH NOTES
bSIXTEENTH NOTESaBEANSaBEAR FACEaBEARDED PERSONaBEATING HEARTaBEAVERaBECAUSEaBEDaBEER MUGaBEETLEaBELaBELLaBELL PEPPER
bSYMBOLbWITH CANCELLATION STROKEaBELLHOP BELLaBENGALI ABBREVIATION SIGNbANJIbAU LENGTH MARK
bCURRENCY DENOMINATOR SIXTEENcNUMERATOR FOURdONEdONE LESS THAN THE DENOMINATORdTHREEdTWObDIGIT EIGHTcFIVEcFOURcNINE
cONEcSEVENcSIXcTHREEcTWOcZERObGANDA MARKbISSHARbLETTER AcAAcAIcAUcBAcBHAcCAcCHAcDAcDDAcDDHAcDHAcEcGAcGHAcHAcIcIIcJA
cJHAcKAcKHAcKHANDA TAcLAcMAcNAcNGAcNNAcNYAcOcPAcPHAcRAcRA WITH LOWER DIAGONALeMIDDLE DIAGONALcRHAcRRAcSAcSHAcSSAcTA
cTHAcTTAcTTHAcUcUUcVEDIC ANUSVARAcVOCALIC LdLLdRdRRcYAcYYAbRUPEE MARKcSIGNbSANDHI MARKbSIGN ANUSVARAcAVAGRAHA
cCANDRABINDUcNUKTAcVIRAMAcVISARGAbVOWEL SIGN AAdAIdAUdEdIdIIdOdUdUUdVOCALIC LeLLeReRR
aBENT ARROW POINTING DOWNWARDS THEN NORTH EASTaBENTO BOXaBENZENE RINGbRING WITH CIRCLEaBET SYMBOLaBETWEENaBEVERAGE BOX
aBHAIKSUKI DANDAbDIGIT EIGHTcFIVEcFOURcNINEcONEcSEVENcSIXcTHREEcTWOcZERObDOUBLE DANDAbGAP FILLER-1d2
bHUNDREDS UNIT MARKbLETTER AcAAcAIcAUcBAcBHAcCAcCHAcDAcDDAcDDHAcDHAcEcGAcGHAcHAcIcIIcJAcJHAcKAcKHAcLAcMAcNAcNGAcNNA
cNYAcOcPAcPHAcRAcSAcSHAcSSAcTAcTHAcTTAcTTHAcUcUUcVAcVOCALIC LdRdRRcYAbNUMBER EIGHTcEIGHTYcFIFTYcFIVEcFORTYcFOURcNINE
cNINETYcONEcSEVENcSEVENTYcSIXcSIXTYcTENcTHIRTYcTHREEcTWENTYcTWObSIGN ANUSVARAcAVAGRAHAcCANDRABINDUcVIRAMAcVISARGA
bVOWEL SIGN AAdAIdAUdEdIdIIdOdUdUUdVOCALIC LeReRRbWORD SEPARATORaBICYCLEaBICYCLISTaBIG REVERSE SOLIDUSbSOLIDUSaBIKINI
aBILLED CAPaBILLIARDSaBIOHAZARD SIGNaBIRDaBIRTHDAY CAKEaBISONaBITCOIN SIGNaBITING LIPaBLACK BOWTIEbCENTRE WHITE STAR
bCHESS BISHOPcBISHOP ROTATED NINETY DEGREESeTWO HUNDRED SEVENTY DEGREEScEQUIHOPPERcEQUIHOPPER ROTATED NINETY DEGREES
cKINGcKING ROTATED NINETY DEGREESeTWO HUNDRED SEVENTY DEGREEScKNIGHTcKNIGHT ROTATED FORTY-FIVE DEGREESeNINETY DEGREES
eONE HUNDRED THIRTY-FIVE DEGREESeTHREE HUNDRED FIFTEEN DEGREESeTWO HUNDRED SEVENTY DEGREESgTWENTY-FIVE DEGREES
cKNIGHT-BISHOPdQUEENdROOKcPAWNcPAWN ROTATED NINETY DEGREESeTWO HUNDRED SEVENTY DEGREEScQUEEN
cQUEEN ROTATED NINETY DEGREESeTWO HUNDRED SEVENTY DEGREEScROOKcROOK ROTATED NINETY DEGREESeTWO HUNDRED SEVENTY DEGREES
cTURNED BISHOPdKINGdKNIGHTdPAWNdQUEENdROOKbCIRCLEbCIRCLE FOR RECORDcWITH DOWN ARROWdTWO WHITE DOTSdWHITE DOT RIGHT
bCLUB SUITbCROSS ON SHIELDbCURVED DOWNWARDS AND LEFTWARDS ARROWeRIGHTWARDS ARROWcLEFTWARDS AND DOWNWARDS ARROW
eUPWARDS ARROWcRIGHTWARDS AND DOWNWARDS ARROWeUPWARDS ARROWcUPWARDS AND LEFTWARDS ARROWeRIGHTWARDS ARROWbDIAMOND
bDIAMOND CENTREDcMINUS WHITE XcON CROSScSUITcWITH DOWN ARROWbDOWN POINTING BACKHAND INDEX
bDOWN-POINTING DOUBLE TRIANGLEdISOSCELES RIGHT TRIANGLEdSMALL TRIANGLEdTRIANGLEbDOWNWARDS EQUILATERAL ARROWHEAD
bDRAUGHTS KINGcMANbDROPLETbFLAGbFLORETTEbFOLDERbFOUR POINTED STARbHARD SHELL FLOPPY DISKbHEARTbHEART SUITbHEXAGON
bHORIZONTAL ELLIPSEbHOURGLASSbLARGE CIRCLEcSQUAREbLEFT LANE MERGEcPOINTING BACKHAND INDEXdINDEX
bLEFT-POINTING DOUBLE TRIANGLEeTRIANGLE WITH VERTICAL BARdISOSCELES RIGHT TRIANGLEdPOINTERdSMALL TRIANGLEdTRIANGLE
bLEFTWARDS BULLETcEQUILATERAL ARROWHEADbLOWER LEFT TRIANGLEcRIGHT TRIANGLEbLOZENGEbMEDIUM DIAMOND
cDOWN-POINTING TRIANGLEeTRIANGLE CENTREDcLEFT-POINTING TRIANGLEeTRIANGLE CENTREDcLOZENGEcRIGHT-POINTING TRIANGLE
eTRIANGLE CENTREDcSMALL DIAMONDdLOZENGEdSQUAREcSQUAREcUP-POINTING TRIANGLEeTRIANGLE CENTREDbMOON LILITHbNIBbOCTAGON
bPARALLELOGRAMbPENNANTbPENTAGONbPUSHPINbQUESTION MARK ORNAMENTbRECTANGLEbRIGHT POINTING BACKHAND INDEXdINDEX
bRIGHT-POINTING DOUBLE TRIANGLEeTRIANGLE WITH VERTICAL BARdISOSCELES RIGHT TRIANGLEdPENTAGONdPOINTERdSMALL TRIANGLE
dTRIANGLEdTRIANGLE WITH DOUBLE VERTICAL BARbRIGHTWARDS ARROWcARROWHEADcBULLETcEQUILATERAL ARROWHEADbROSETTE
bSAFETY SCISSORSbSCISSORSbSHOGI PIECEbSKULL AND CROSSBONESbSLIGHTLY SMALL CIRCLEdSQUAREbSMALL DIAMONDcLOZENGEcSQUARE
cSTARbSMILING FACEbSNOWMANbSPADE SUITbSQUAREbSQUARE BUTTONcCENTREDcFOR STOPbSTARbSUN WITH RAYSbTELEPHONEbTINY DIAMOND
cLOZENGEcSQUAREbTOUCHTONE TELEPHONEbTRUCKbTWO-WAY LEFT WAY TRAFFICbUNIVERSAL RECYCLING SYMBOL
bUP POINTING BACKHAND INDEXbUP-POINTING DOUBLE TRIANGLEdISOSCELES RIGHT TRIANGLEdSMALL TRIANGLEdTRIANGLE
bUPPER LEFT TRIANGLEcRIGHT TRIANGLEbUPWARDS EQUILATERAL ARROWHEADbVERTICAL ELLIPSEcRECTANGLEbVERY SMALL DIAMOND
dLOZENGEdSQUAREaBLACK-FEATHERED NORTH EAST ARROWcRIGHTWARDS ARROWcSOUTH EAST ARROWbLETTER CAPITAL CdHdIdRdZ
aBLANK SYMBOLaBLOCK SEXTANT-1c12c123c1234c12345c12346c1235c12356c1236c124c1245c12456c1246c125c1256c126c13c134c1345
c13456c1346c1356c136c14c145c1456c146c15c156c16c2c23c234c2345c23456c2346c235c2356c236c24c245c2456c25c256c26c3c34c345
c3456c346c35c356c36c4c45c456c46c5c56c6aBLOSSOMaBLOWFISHaBLUE BOOKbHEARTaBLUEBERRIESaBOARaBOLD EIGHT SPOKED ASTERISK
bFIVE SPOKED ASTERISKbGREEK CROSSbSALTIREbSIX SPOKED ASTERISKbWHITE CIRCLEcSQUAREaBOMaBOMBaBONEaBOOKaBOOKMARK
aBOOKMARK TABSaBOOKSaBOOMERANGaBOPOMOFO FINAL LETTER GdHdKdPdTbLETTER AcAHcAIcAINNcAMcANcANGcANNcAUcAUNNcBcBUcCcCHcDcE
cEEcEHcEIcENcENGcENNcERcFcGcGHcGNcGUcGWcHcIcIHcIMcINNcINNNcIRcIUcJcJIcKcKWcLcLHcMcNcNGcNGGcNNcOcO WITH DOT ABOVEcOEcOM
cONGcONNcOOcOUcPcQcRcScSHcTcUcUNNcVcXcZcZHcZIcZYaBOTTLE WITH POPPING CORKaBOTTOM ARC ANTICLOCKWISE ARROWbCURLY BRACKET
bHALF BLACK CIRCLEcINTEGRALcLEFT PARENTHESIScRIGHT PARENTHESISbLEFT CORNERcCROPcHALF BRACKETbPARENTHESISbRIGHT CORNER
cCROPcHALF BRACKETbSQUARE BRACKETcBRACKET OVER TOP SQUARE BRACKETbTORTOISE SHELL BRACKETaBOUQUETaBOUQUET OF FLOWERS
aBOW AND ARROWaBOWL OF HYGIEIAbWITH SPOONaBOWLINGaBOWTIEaBOWTIE WITH LEFT HALF BLACKcRIGHT HALF BLACK
aBOX DRAWINGS DOUBLE DOWN AND HORIZONTALfLEFTfRIGHTdHORIZONTALdUP AND HORIZONTALfLEFTfRIGHTdVERTICAL
dVERTICAL AND HORIZONTALfLEFTfRIGHTcDOWN DOUBLE AND HORIZONTAL SINGLEfLEFT SINGLEfRIGHT SINGLE
dHEAVY AND HORIZONTAL LIGHTfLEFT LIGHTgUP LIGHTfRIGHT LIGHTgUP LIGHTfUP HORIZONTAL LIGHTdLIGHT AND HORIZONTAL HEAVY
fLEFT HEAVYgUP HEAVYfRIGHT HEAVYgUP HEAVYfUP HORIZONTAL HEAVYdSINGLE AND HORIZONTAL DOUBLEfLEFT DOUBLEfRIGHT DOUBLE
cHEAVY DOUBLE DASH HORIZONTALfVERTICALdDOWNdDOWN AND HORIZONTALfLEFTfRIGHTdHORIZONTALdLEFTdLEFT AND LIGHT RIGHT
dQUADRUPLE DASH HORIZONTALfVERTICALdRIGHTdTRIPLE DASH HORIZONTALfVERTICALdUPdUP AND HORIZONTALfLEFTfLIGHT DOWNfRIGHT
dVERTICALdVERTICAL AND HORIZONTALfLEFTfRIGHTcLEFT DOWN HEAVY AND RIGHT UP LIGHTdHEAVY AND RIGHT DOWN LIGHTgUP LIGHT
gVERTICAL LIGHTdLIGHT AND RIGHT DOWN HEAVYgUP HEAVYgVERTICAL HEAVYdUP HEAVY AND RIGHT DOWN LIGHT
cLIGHT ARC DOWN AND LEFTgRIGHTeUP AND LEFTgRIGHTdDIAGONAL CROSSeDIAMONDeMIDDLE LEFT TO LOWER CENTRE
iCENTRE TO MIDDLE RIGHThUPPER CENTRE TO MIDDLE RIGHTlRIGHT TO LOWER CENTREfRIGHT TO LOWER CENTRE
hUPPER CENTRE TO MIDDLE LEFT TO LOWER CENTREeUPPER CENTRE TO MIDDLE LEFTiLEFT AND MIDDLE RIGHT TO LOWER CENTRE
jTO LOWER CENTRElCENTRE TO MIDDLE RIGHTiRIGHTiRIGHT AND MIDDLE LEFT TO LOWER CENTREjTO LOWER CENTRE
lCENTRE TO MIDDLE LEFTfLEFT TO LOWER RIGHTfRIGHT TO LOWER LEFTdDOUBLE DASH HORIZONTALfVERTICALdDOWN
dDOWN AND HORIZONTALfLEFTfRIGHTdHORIZONTALdHORIZONTAL WITH VERTICAL STROKEdLEFTdLEFT AND HEAVY RIGHT
dQUADRUPLE DASH HORIZONTALfVERTICALdRIGHTdTRIPLE DASH HORIZONTALfVERTICALdUPdUP AND HEAVY DOWNfHORIZONTALfLEFTfRIGHT
dVERTICALdVERTICAL AND HORIZONTALfLEFTfRIGHTcRIGHT DOWN HEAVY AND LEFT UP LIGHTdHEAVY AND LEFT DOWN LIGHTgUP LIGHT
gVERTICAL LIGHTdLIGHT AND LEFT DOWN HEAVYgUP HEAVYgVERTICAL HEAVYdUP HEAVY AND LEFT DOWN LIGHT
cUP DOUBLE AND HORIZONTAL SINGLEfLEFT SINGLEfRIGHT SINGLEdHEAVY AND DOWN HORIZONTAL LIGHTfHORIZONTAL LIGHT
fLEFT DOWN LIGHTgLIGHTfRIGHT DOWN LIGHTgLIGHTdLIGHT AND DOWN HORIZONTAL HEAVYfHORIZONTAL HEAVYfLEFT DOWN HEAVYgHEAVY
fRIGHT DOWN HEAVYgHEAVYdSINGLE AND HORIZONTAL DOUBLEfLEFT DOUBLEfRIGHT DOUBLEcVERTICAL DOUBLE AND HORIZONTAL SINGLE
fLEFT SINGLEfRIGHT SINGLEdHEAVY AND HORIZONTAL LIGHTfLEFT LIGHTfRIGHT LIGHTdLIGHT AND HORIZONTAL HEAVYfLEFT HEAVY
fRIGHT HEAVYdSINGLE AND HORIZONTAL DOUBLEfLEFT DOUBLEfRIGHT DOUBLEaBOXING GLOVEaBOYaBOYS SYMBOLaBPHaBRAHMI DANDA
bDIGIT EIGHTcFIVEcFOURcNINEcONEcSEVENcSIXcTHREEcTWOcZERObDOUBLE DANDAbLETTER AcAAcAIcAUcBAcBHAcCAcCHAcDAcDDAcDDHAcDHA
cEcGAcGHAcHAcIcIIcJAcJHAcKAcKHAcLAcLLAcMAcNAcNGAcNNAcNYAcOcOLD TAMIL LLAeLLLAeNNNAeRRAeSHORT EfOcPAcPHAcRAcSAcSHAcSSA
cTAcTHAcTTAcTTHAcUcUUcVAcVOCALIC LdLLdRdRRcYAbNUMBER EIGHTcEIGHTYcFIFTYcFIVEcFORTYcFOURcJOINERcNINEcNINETYcONE
cONE HUNDREDdTHOUSANDcSEVENcSEVENTYcSIXcSIXTYcTENcTHIRTYcTHREEcTWENTYcTWObPUNCTUATION CRESCENT BARcDOTcDOUBLE DOTcLINE
cLOTUSbSIGN ANUSVARAcCANDRABINDUcJIHVAMULIYAcOLD TAMIL VIRAMAcUPADHMANIYAcVISARGAbVIRAMAbVOWEL SIGN AAdAIdAU
dBHATTIPROLU AAdEdIdIIdOdOLD TAMIL SHORT EgOdUdUUdVOCALIC LeLLeReRRaBRAILLE PATTERN BLANKcDOTS-1d12d123d1234d12345
d123456d1234567d12345678d1234568d123457d1234578d123458d12346d123467d1234678d123468d12347d123478d12348d1235d12356
d123567d1235678d123568d12357d123578d12358d1236d12367d123678d12368d1237d12378d1238d124d1245d12456d124567d1245678d124568
d12457d124578d12458d1246d12467d124678d12468d1247d12478d1248d125d1256d12567d125678d12568d1257d12578d1258d126d1267d12678
d1268d127d1278d128d13d134d1345d13456d134567d1345678d134568d13457d134578d13458d1346d13467d134678d13468d1347d13478d1348
d135d1356d13567d135678d13568d1357d13578d1358d136d1367d13678d1368d137d1378d138d14d145d1456d14567d145678d14568d1457
d14578d1458d146d1467d14678d1468d147d1478d148d15d156d1567d15678d1568d157d1578d158d16d167d1678d168d17d178d18d2d23d234
d2345d23456d234567d2345678d234568d23457d234578d23458d2346d23467d234678d23468d2347d23478d2348d235d2356d23567d235678
d23568d2357d23578d2358d236d2367d23678d2368d237d2378d238d24d245d2456d24567d245678d24568d2457d24578d2458d246d2467d24678
d2468d247d2478d248d25d256d2567d25678d2568d257d2578d258d26d267d2678d268d27d278d28d3d34d345d3456d34567d345678d34568d3457
d34578d3458d346d3467d34678d3468d347d3478d348d35d356d3567d35678d3568d357d3578d358d36d367d3678d368d37d378d38d4d45d456
d4567d45678d4568d457d4578d458d46d467d4678d468d47d478d48d5d56d567d5678d568d57d578d58d6d67d678d68d7d78d8aBRAINaBREAD
aBREAK PERMITTED HEREaBREAST-FEEDINGaBREVEaBRICKaBRIDE WITH VEILaBRIDGE AT NIGHTaBRIEFCASEaBRIEFSaBROCCOLIaBROKEN BAR
bCIRCLE WITH NORTHWEST ARROWbHEARTaBROOMaBROWN HEARTaBSaBUBBLE TEAaBUBBLESaBUCKETaBUGaBUGINESE END OF SECTIONbLETTER A
cBAcCAcDAcGAcHAcJAcKAcLAcMAcMPAcNAcNGAcNGKAcNRAcNYAcNYCAcPAcRAcSAcTAcVAcYAbPALLAWAbVOWEL SIGN AEdEdIdOdU
aBUHID LETTER AcBAcDAcGAcHAcIcKAcLAcMAcNAcNGAcPAcRAcSAcTAcUcWAcYAbVOWEL SIGN IdUaBUILDING CONSTRUCTIONaBULLET
aBULLET OPERATORaBULLHORNaBULLHORN WITH SOUND WAVESaBULLSEYEaBURRITOaBUSaBUS STOPaBUST IN SILHOUETTE
aBUSTS IN SILHOUETTEaBUTTERaBUTTERFLYaBYTE ORDER MARKaBYZANTINE MUSICAL SYMBOL AGOGI ARGIeARGOTERIeGORGIeGORGOTERI
eMESIeMETRIAePOLI ARGIfGORGIdANATRICHISMAdANTIKENOKYLISMAdANTIKENOMAdAPESO EKFONITIKONeEXO NEOdAPLIdAPODERMA ARCHAION
eNEOdAPOSTROFOI SYNDESMOS NEOeTELOUS ICHIMATOSdAPOSTROFOSdAPOSTROFOS DIPLIeNEOdAPOTHEMAdARGONdARGOSYNTHETONdARKTIKO DI
eGAeKEeNIePAeVOUeZOdCHAMILIdCHAMILONdCHOREVMA ARCHAIONeNEOdCHROA KLITONeSPATHIeZYGOSdDASEIAdDIARGON
dDIASTOLI APLI MEGALIfMIKRIeDIPLIeTHESEOSdDIESIS APLI DYO DODEKATAeDIGRAMMOS EX DODEKATAeMONOGRAMMOS TESSERA DODEKATA
eTETARTIMORIONeTRIGRAMMOS OKTO DODEKATAeTRITIMORIONdDIFTOGGOS OUdDIGORGONdDIGORGON PARESTIGMENON ARISTERA ANOgKATO
fDEXIAdDIGRAMMA GGdDIPLIdDIPLI ARCHAIONdDYOdEKSTREPTONdELAFRONdENARXIS KAI FTHORA VOUdENDOFONONdEPEGERMA
dETERON ARGOSYNTHETONePARAKALESMAdEXO EKFONITIKONdFANEROSIS DIFONIASeMONOFONIASeTETRAFONIAS
dFHTORA SKLIRON CHROMA VASISdFTHORA ARCHAIONeARCHAION DEYTEROU ICHOUeDIATONIKI DIfKEfNANAfNI ANOgKATOfPAfZO
eENARMONIOS ANTIFONIAeI YFESIS TETARTIMORIONeMALAKON CHROMA DIFONIASgMONOFONIASeNAOS ICHOSeNENANO
eSKLIRON CHROMA SYNAFIgVASISfDIATONON DIdGENIKI DIESISeYFESISdGORGON ARCHAIONeNEO ANOfKATOePARESTIGMENON ARISTERA
fDEXIAdGORGOSYNTHETONdGORTHMIKON N APLOUNfDIPLOUNdGRONTHISMATAdICHADINdIMIDIARGONdIMIFONONdIMIFTHORAdIMIFTHORON
dISAKIA TELOUS ICHIMATOSdISON ARCHAIONeNEOdKATAVA TROMIKONdKATAVASMAdKATHISTIdKENTIMA ARCHAIONeNEO ANOfKATOfMESO
dKENTIMATAdKENTIMATA ARCHAIONeNEO ANOfKATOfMESOdKLASMAdKLASMA ANOeKATOdKONTEVMAdKONTEVMA ALLOdKORONISdKOUFISMA
dKRATIMA ALLOeARCHAIONeNEOdKRATIMATAdKRATIMOKOUFISMAdKRATIMOYPORROONdKREMASTIdKYLISMAdLEIMMA DYO CHRONONeENOS CHRONOU
eIMISEOS CHRONOUeTESSARON CHRONONeTRION CHRONONdLEMOIdLYGISMAdMARTYRIA ALLI DEYTEROS ICHOSfPROTOS ICHOSeDEYTEROS ICHOS
eLEGETOS ICHOSePLAGIOS ICHOSfTETARTOS ICHOSePROTOS ICHOSePROTOVARYS ICHOSeTETARTOS ICHOSfLEGETOS ICHOSeTRIFONIAS
eTRITOS ICHOSeVARYS ICHOSdMIKRON ISONdNANAdOLIGON ARCHAIONeNEOdOMALONdOXEIA DIPLIeEKFONITIKONeNEOdOXEIAI ARCHAION
dOYRANISMA ARCHAIONeNEOdPARAKALESMA ARCHAIONeNEOdPARAKLITIKIdPARAKLITIKI ARCHAIONeNEOdPARICHONdPELASTONdPELASTON NEO
dPERISPOMENIdPETASMAdPETASTIdPETASTOKOUFISMAdPIASMA ARCHAIONeNEOdPSIFISTOLYGISMAdPSIFISTONdPSIFISTON NEO
dPSIFISTOPARAKALESMAdPSIFISTOSYNAGMAdPSILIdPSILONdRAPISMAdREVMAdSAXIMATAdSEISMAdSEISMA NEOdSIMANSIS ARSEOS
eARSEOS DISIMOUfTETRASIMOUfTRISIMOUeTHESEOSeTHESEOS DISIMOUfTETRASIMOUfTRISIMOUdSTAVROSdSTAVROS APODEXIAdSTIGMA
dSTRAGGISMATAdSYNAGMA ARCHAIONeMETA STAVROUeNEOdSYNEVMAdSYRMAdSYRMATIKIdTELEIAdTESSERAdTETRAPLIdTHEMAdTHEMA APLOUN
dTHEMATISMOS ESOeEXOdTHES KAI APOTHESdTHITAdTINAGMAdTRIAdTRIGORGONdTRIPLIdTROMIKOLYGISMAdTROMIKON ALLOeARCHAIONeNEO
dTROMIKOPARAKALESMAdTROMIKOPSIFISTONdTROMIKOSYNAGMAdVAREIA DIPLIeEKFONITIKONeNEOdVAREIAI ARCHAIONdVATHYdXIRON KLASMA
dYFEN ANOeKATOdYFESIS APLI DYO DODEKATAeDIGRAMMOS EX DODEKATAeMONOGRAMMOS TESSERA DODEKATAeTRIGRAMMOS OKTO DODEKATA
eTRITIMORIONdYPOKRISISdYPOKRISIS DIPLIdYPORROIdYPSILIaCACTUSaCADA UNAaCADUCEUSaCALENDARaCALL ME HANDaCAMERA
aCAMERA WITH FLASHaCAMPINGaCANaCANADIAN SYLLABICS AcAAcAAIcAAYcAIcAIVILIK BcANcATHAPASCAN MdScAYcBEAVER DENE LeR
cBIBLE-CREE YcBLACKFOOT AdEdIdKAdKEdKIdKOdNAdNEdNIdNOdOdSdWdWAdWEdWIdWOcCcCAcCAAcCAAIcCARRIER CHAdCHEdCHEEdCHIdCHOdCHU
dDEEdDENE GEEdDENTAL SdDIdDLAdDLEdDLEEdDLIdDLOdDLUdDZAdDZEdDZEEdDZIdDZOdDZUdEEdGAdGAAdGEdGEEdGHAdGHEdGHEEdGHIdGHOdGHU
dGIdGOdGUdGWAdGWUdHdHEEdHIdHWAdHWEdHWEEdHWIdHWOdHWUdIdINITIAL ZdJAdJEdJEEdJIdJJAdJJEdJJEEdJJIdJJOdJJUdJOdJUdJWAdKHA
dKHEdKHEEdKHIdKHOdKHUdKKdKKAdKKEdKKEEdKKIdKKOdKKUdLAdLEdLEEdLHAdLHEdLHEEdLHIdLHOdLHUdLIdLOdLUdMAdMEdMEEdMIdMOdMUdNAdNE
dNEEdNGdNIdNOdNUdPdPAdPEdPEEdPIdPOdPUdRAdREdREEdRIdROdRUdSAdSEdSEEdSHdSHAdSHEdSHEEdSHIdSHOdSHUdSIdSOdSUdTHAdTHEdTHEE
dTHIdTHOdTHUdTLAdTLEdTLEEdTLHAdTLHEdTLHEEdTLHIdTLHOdTLHUdTLIdTLOdTLUdTSAdTSEdTSEEdTSIdTSOdTSUdTTAdTTEdTTEEdTTIdTTO
dTTSAdTTSEdTTSEEdTTSIdTTSOdTTSUdTTUdWAdWEdWEEdWIdWOdWUdYAdYEdYEEdYIdYOdYUdZdZAdZEdZEEdZIdZOdZUcCEcCHI SIGNcCIcCIIcCO
cCOOcCWAcCWAAcCWEcCWIcCWIIcCWOcCWOOcEcEASTERN WcENcFcFAcFAAcFAAIcFEcFIcFIIcFINAL ACUTEdBOTTOM HALF RINGdDOUBLE ACUTE
eSHORT VERTICAL STROKESdDOWN TACKdGRAVEdMIDDLE DOTdPLUSdRAISED DOTdRIGHT HALF RINGdRINGdSHORT HORIZONTAL STROKE
dSMALL RINGdTOP HALF RINGcFOcFOOcFULL STOPcFWAAcGLOTTAL STOPcHKcHYPHENcIcIIcINcKcKAcKAAcKAAIcKAYcKEcKIcKIIcKOcKOOcKW
cKWAcKWAAcKWAYcKWEcKWIcKWIIcKWOcKWOOcLcLAcLAAcLAAIcLAYcLEcLHcLHAcLHAAcLHIcLHIIcLHOcLHOOcLIcLIIcLOcLOOcLWAcLWAAcLWEcLWI
cLWIIcLWOcLWOOcMcMAcMAAcMAAIcMAYcMEcMEDIAL LdRcMHcMIcMIIcMOcMOOcMOOSE-CREE SKcMWAcMWAAcMWEcMWIcMWIIcMWOcMWOOcN
cN-CREE THEeTHIeTHIIcNAcNAAcNAAIcNASKAPI CWAAdKWAAdMWAAdNWAAdS-WdSCWAdSKWdSKWAdSPWAdSTWAdSWAAdTWAAdWAAdWOOdYWAA
cNATTILIK HAdHAAdHIdHIIdHOdHOOdSHRAdSHRAAdSHRIdSHRIIdSHROdSHROOcNAYcNEcNGcNGAcNGAAcNGAAIcNGAIcNGIcNGIIcNGOcNGOOcNHcNI
cNIIcNNGcNNGAcNNGAAcNNGIcNNGIIcNNGOcNNGOOcNOcNOOcNOYcNUNAVIK HdHAdHAAdHEdHIdHIIdHOdHOOcNUNAVUT HcNWAcNWAAcNWEcNWIcNWII
cNWOcNWOOcOcOJIBWAY CdKdMdNdNWIdNWIIdNWOdNWOOdPdSdSHdTcONcOOcOYcPcPAcPAAcPAAIcPAYcPEcPIcPIIcPOcPOOcPOYcPWAcPWAAcPWE
cPWIcPWIIcPWOcPWOOcPWOYcQcQAcQAAcQAAIcQAIcQIcQIIcQOcQOOcRcR-CREE REeRWEcRAcRAAcRAAIcRAYcREcRIcRIIcROcROOcRWAcRWAAcRWEE
cRWIcRWIIcRWOcRWOOcScSAcSAAcSAAIcSAYcSAYISI HAdHEdHIdHOdHOOdJIdJUdJUUdMdSHAdSHEdSHIdSHOdSHOOdSHWEdTHdYIcSEcSHcSHAcSHAA
cSHAYcSHEcSHIcSHIIcSHOcSHOOcSHOYcSHWAcSHWAAcSHWEcSHWIcSHWIIcSHWOcSHWOOcSHWOYcSIcSIIcSOcSOOcSOUTH-SLAVEY KAHeKEHeKIH
eKOHcSOYcSPAcSPEcSPIcSPOcSWcSWAcSWAAcSWEcSWIcSWIIcSWOcSWOOcTcTAcTAAcTAAIcTAYcTEcTHcTH-CREE THeTHAeTHAAeTHEeTHIeTHII
eTHOeTHOOcTHAcTHAAcTHEcTHIcTHIIcTHOcTHOOcTHWAcTHWAAcTHWEcTIcTIIcTLHAcTLHEcTLHIcTLHOcTLHOOcTLHWEcTOcTOOcTTAcTTEcTTH
cTTHAcTTHAAcTTHEcTTHIcTTHOcTTHOOcTTHWEcTTIcTTOcTWAcTWAAcTWEcTWIcTWIIcTWOcTWOOcTYAcTYEcTYIcTYOcWAcWAAcWAYcWE
cWEST-CREE CWAeCWAAeCWEeCWIeCWIIeCWOeCWOOeFWAAeKWAeKWAAeKWEeKWIeKWIIeKWOeKWOOeLeLAeLAAeLEeLOeLOOeLWAeLWAAeLWEeLWIeLWII
eLWOeLWOOeMeMWAeMWAAeMWEeMWIeMWIIeMWOeMWOOeNWAeNWAAeNWEePePWAePWAAePWEePWIePWIIePWOePWOOeReRAeREeRIeROeRWAAeSHWAeSHWAA
eSHWEeSHWIeSHWIIeSHWOeSHWOOeSWAeSWAAeSWEeSWIeSWIIeSWOeSWOOeTHWAAeTWAeTWAAeTWEeTWIeTWIIeTWOeTWOOeWAeWAAeWEeWIeWIIeWO
eWOOeYeYWAeYWAAeYWEeYWIeYWIIeYWOeYWOOcWESTERN WcWIcWIIcWOcWOOcWOODS-CREE FINAL THeTHeTHAeTHEeTHIeTHOeTHWAeTHWAAeTHWEE
eTHWIeTHWIIeTHWOeTHWOOcYcY-CREE COOeKOOeLOOeMOOeNOOeOOePOOePWAAeSOOeTOOeWeYOOcYAcYAAcYAAIcYAYcYEcYIcYIIcYOcYOOcYOYcYWA
cYWAAcYWEcYWIcYWIIcYWOcYWOOaCANCELaCANCEL CHARACTERbTAGaCANCELLATION XaCANCERaCANDLEaCANDYaCANNED FOODaCANOEaCAPITULUM
aCAPRICORNaCAR SLIDINGaCARD FILE BOXbINDEXbINDEX DIVIDERSaCARE OFaCARETaCARET INSERTION POINTaCARIAN LETTER AcA2cB
cC-18d39cDcD2cEcE2cGcG2cIcIIcKcK2cLcLDcLD2cMcMBcMB2cMB3cMB4cNcNDcNGcNNcOcPcP2cQcRcRRcScSHcSH2cSScSTcST2cTcTTcTT2cUcUU
cUUUcUUU2cUUU3cUUUUcXaCARONaCAROUSEL HORSEaCARP STREAMERaCARPENTRY SAWaCARRIAGE RETURNaCARROTaCASTLEaCATaCAT FACE
bFACE WITH TEARS OF JOYdWRY SMILEaCAUCASIAN ALBANIAN CITATION MARKcLETTER ALTdAORdBETdCARdCAYNdCHAdCHATdCHIdCHOYdCYAW
dCYAYdDATdDYANdDZAYdDZYAYdEBdEYNdFAMdGHEYSdGIMdHEYTdINYAdIRBdIWNdJAYNdJHOXdKARdKIWdLANdLYITdMAQdNOWCdONdPENdPIWRdQAR
dQAYdRATdSEYKdSHAdSHAKdSHOYdTASdTIWRdTYAYdVEYZdXEYNdYAYDdYOWDdZARLdZHAdZHILaCAUTION SIGNaCCHaCEDI SIGNaCEDILLA
aCELTIC CROSSaCENT SIGNaCENTRE LINE SYMBOLaCENTRELINE LOW LINEbOVERLINEaCERESaCGJaCHAINSaCHAIRaCHAKMA AU MARKbDANDA
bDIGIT EIGHTcFIVEcFOURcNINEcONEcSEVENcSIXcTHREEcTWOcZERObDOUBLE DANDAbLETTER AAcBAAcBHAAcCAAcCHAAcDAAcDDAAcDDHAAcDHAA
cEcGAAcGHAAcHAAcIcJAAcJHAAcKAAcKHAAcLAAcLHAAcMAAcNAAcNGAAcNNAAcNYAAcPAAcPHAAcRAAcSAAcTAAcTHAAcTTAAcTTHAAcUcVAAcWAAcYAA
cYYAAbMAAYYAAbO MARKbQUESTION MARKbSECTION MARKbSIGN ANUSVARAcCANDRABINDUcVISARGAbVIRAMAbVOWEL SIGN AdAAdAIdAUdEdEIdI
dIIdOdOIdUdUUaCHAM CONSONANT SIGN FINAL HeMeNGdLAdRAdWAdYAbDIGIT EIGHTcFIVEcFOURcNINEcONEcSEVENcSIXcTHREEcTWOcZERO
bLETTER AcAIcBAcBBAcBHAcCHAcCHHAcDAcDDAcDHAcEcFINAL CHdGdKdLdNdNGdPdRdSSdTdYcGAcGHAcHAcIcJAcJHAcKAcKHAcLAcMAcMUEcNA
cNGAcNGUEcNHAcNHJAcNHUEcNUEcOcPAcPHAcPPAcRAcSAcSSAcTAcTHAcUcVAcYAbPUNCTUATION DANDAcDOUBLE DANDAcSPIRALcTRIPLE DANDA
bVOWEL SIGN AAdAIdAUdEIdIdIIdOdOEdUdUEaCHARACTER TABULATIONbTABULATION SETcWITH JUSTIFICATIONbTIE
aCHART WITH DOWNWARDS TRENDcUPWARDS TRENDdTREND AND YEN SIGNaCHECK MARKaCHECKER BOARDbBOARD FILLaCHEERING MEGAPHONE
aCHEESE WEDGEaCHEQUERED FLAGaCHEROKEE LETTER AcDAcDEcDIcDLAcDOcDUcDVcEcGAcGEcGIcGOcGUcGVcHAcHEcHIcHNAcHOcHUcHVcIcKAcLA
cLEcLIcLOcLUcLVcMAcMEcMIcMOcMUcMVcNAcNAHcNEcNIcNOcNUcNVcOcQUAcQUEcQUIcQUOcQUUcQUVcScSAcSEcSIcSOcSUcSVcTAcTEcTIcTLAcTLE
cTLIcTLOcTLUcTLVcTSAcTSEcTSIcTSOcTSUcTSVcUcVcWAcWEcWIcWOcWUcWVcYAcYEcYIcYOcYUcYVbSMALL LETTER AdDAdDEdDIdDLAdDOdDUdDV
dEdGAdGEdGIdGOdGUdGVdHAdHEdHIdHNAdHOdHUdHVdIdKAdLAdLEdLIdLOdLUdLVdMAdMEdMIdMOdMUdMVdNAdNAHdNEdNIdNOdNUdNVdOdQUAdQUE
dQUIdQUOdQUUdQUVdSdSAdSEdSIdSOdSUdSVdTAdTEdTIdTLAdTLEdTLIdTLOdTLUdTLVdTSAdTSEdTSIdTSOdTSUdTSVdUdVdWAdWEdWIdWOdWUdWVdYA
dYEdYIdYOdYUdYVaCHERRIESaCHERRY BLOSSOMaCHESTNUTaCHI RHOaCHICKENaCHILDaCHILDREN CROSSINGaCHIPMUNKaCHIRONaCHOCOLATE BAR
aCHOPSTICKSaCHORASMIAN LETTER ALEPHcAYINcBETHcCURLED WAWcDALETHcGIMELcHEcHETHcKAPHcLAMEDHcMEMcNUNcPEcRESHcSAMEKHcSHIN
cSMALL ALEPHcTAWcWAWcYODHcZAYINbNUMBER FOURcONEcONE HUNDREDcTENcTHREEcTWENTYcTWOaCHRISTMAS TREEaCHURCHaCINEMA
aCIRCLE DIVIDED BY HORIZONTAL BAR AND TOP HALF DIVIDED BY VERTICAL BARbWITH ALL BUT UPPER LEFT QUADRANT BLACK
cHORIZONTAL BARcLEFT HALF BLACKcLOWER HALF BLACKcRIGHT HALF BLACKcSMALL CIRCLE TO THE RIGHTcSUPERIMPOSED X
cTWO HORIZONTAL STROKES TO THE RIGHTcUPPER HALF BLACKdRIGHT QUADRANT BLACKcVERTICAL FILLaCIRCLED ANTICLOCKWISE ARROW
bANTICLOCKWISE-ROTATED DIVISION SIGNbASTERISK OPERATORbBOLD XbBULLETbC WITH OVERLAID BACKSLASHbCCbCDbCROSS FORMEE
cFORMEE WITH FOUR DOTSeTWO DOTScPOMMEEbCROSSING LANESbDASHbDIGIT EIGHTcFIVEcFOURcNINEcONEcSEVENcSIXcTHREEcTWOcZERO
bDIVISION SIGNcSLASHbDOLLAR SIGN WITH OVERLAID BACKSLASHbDOT OPERATORbEQUALSbGREATER-THANbHANGUL CHIEUCHcCHIEUCH A
cCIEUCcCIEUC AcHIEUHcHIEUH AcIEUNGcIEUNG AdUcKHIEUKHcKHIEUKH AcKIYEOKcKIYEOK AcMIEUMcMIEUM AcNIEUNcNIEUN AcPHIEUPH
cPHIEUPH AcPIEUPcPIEUP AcRIEULcRIEUL AcSIOScSIOS AcTHIEUTHcTHIEUTH AcTIKEUTcTIKEUT AbHEAVY WHITE RIGHTWARDS ARROW
bHORIZONTAL BAR WITH NOTCHbHUMAN FIGUREbIDEOGRAPH ACCEPTcADVANTAGEcALLIANCEcATTENTIONcCENTREcCONGRATULATIONcCOPY
cCORRECTcEARTHcEIGHTcENTERPRISEcEXCELLENTcFEMALEcFINANCIALcFIREcFIVEcFOURcHAVEcHIGHcITEMcKINDERGARTENcKOTOcLABORcLEFT
cLOWcMALEcMEDICINEcMETALcMOONcNAMEcNIGHTcNINEcONEcPRINTcQUESTIONcRELIGIONcRESOURCEcRESTcRIGHTcSCHOOLcSECRETcSEVENcSIX
cSOCIETYcSPECIALcSTOCKcSTUDYcSUITABLEcSUNcSUPERVISEcTENcTHREEcTWOcWATERcWOODbINFORMATION SOURCE
bITALIC LATIN CAPITAL LETTER CfRbKATAKANA AcEcHAcHEcHIcHOcHUcIcKAcKEcKIcKOcKUcMAcMEcMIcMOcMUcNAcNEcNIcNOcNUcOcRAcREcRI
cROcRUcSAcSEcSIcSOcSUcTAcTEcTIcTOcTUcUcWAcWEcWIcWOcYAcYOcYUbKOREAN CHARACTER CHAMKOdJUEUIbLATIN CAPITAL LETTER AeBeCeD
eEeFeGeHeIeJeKeLeMeNeOePeQeReSeTeUeVeWeXeYeZcSMALL LETTER AeBeCeDeEeFeGeHeIeJeKeLeMeNeOePeQeReSeTeUeVeWeXeYeZ
bLESS-THANbMINUSbMULTIPLICATION SIGN WITH CIRCUMFLEX ACCENTbNUMBER EIGHTEENcEIGHTY ON BLACK SQUAREcELEVENcFIFTEEN
cFIFTYcFIFTY ON BLACK SQUAREcFORTYcFORTY EIGHTdFIVEdFOURdNINEdON BLACK SQUAREdONEdSEVENdSIXdTHREEdTWOcFOURTEEN
cNINETEENcSEVENTEENcSEVENTY ON BLACK SQUAREcSIXTEENcSIXTY ON BLACK SQUAREcTENcTEN ON BLACK SQUAREcTHIRTEENcTHIRTY
cTHIRTY EIGHTdFIVEdFOURdNINEdON BLACK SQUAREdONEdSEVENdSIXdTHREEdTWOcTWELVEcTWENTYcTWENTY EIGHTdFIVEdFOURdNINE
dON BLACK SQUAREdONEdSEVENdSIXdTHREEdTWObOPEN CENTRE EIGHT POINTED STARbPARALLELbPERPENDICULARbPLUSbPOSTAL MARK
bREVERSE SOLIDUSbRING OPERATORbSQUAREbTIMESbTRIANGLEbTRIANGLE DOWNbVERTICAL BARbWHITE BULLETcSTARbWZbXbZERO WITH SLASH
aCIRCULATION FUNCTIONaCIRCUMFLEX ACCENTaCIRCUS TENTaCITYSCAPEaCITYSCAPE AT DUSKaCJK COMPATIBILITY IDEOGRAPH-2F800
d2F801d2F802d2F803d2F804d2F805d2F806d2F807d2F808d2F809d2F80Ad2F80Bd2F80Cd2F80Dd2F80Ed2F80Fd2F810d2F811d2F812d2F813
d2F814d2F815d2F816d2F817d2F818d2F819d2F81Ad2F81Bd2F81Cd2F81Dd2F81Ed2F81Fd2F820d2F821d2F822d2F823d2F824d2F825d2F826
d2F827d2F828d2F829d2F82Ad2F82Bd2F82Cd2F82Dd2F82Ed2F82Fd2F830d2F831d2F832d2F833d2F834d2F835d2F836d2F837d2F838d2F839
d2F83Ad2F83Bd2F83Cd2F83Dd2F83Ed2F83Fd2F840d2F841d2F842d2F843d2F844d2F845d2F846d2F847d2F848d2F849d2F84Ad2F84Bd2F84C
d2F84Dd2F84Ed2F84Fd2F850d2F851d2F852d2F853d2F854d2F855d2F856d2F857d2F858d2F859d2F85Ad2F85Bd2F85Cd2F85Dd2F85Ed2F85F
d2F860d2F861d2F862d2F863d2F864d2F865d2F866d2F867d2F868d2F869d2F86Ad2F86Bd2F86Cd2F86Dd2F86Ed2F86Fd2F870d2F871d2F872
d2F873d2F874d2F875d2F876d2F877d2F878d2F879d2F87Ad2F87Bd2F87Cd2F87Dd2F87Ed2F87Fd2F880d2F881d2F882d2F883d2F884d2F885
d2F886d2F887d2F888d2F889d2F88Ad2F88Bd2F88Cd2F88Dd2F88Ed2F88Fd2F890d2F891d2F892d2F893d2F894d2F895d2F896d2F897d2F898
d2F899d2F89Ad2F89Bd2F89Cd2F89Dd2F89Ed2F89Fd2F8A0d2F8A1d2F8A2d2F8A3d2F8A4d2F8A5d2F8A6d2F8A7d2F8A8d2F8A9d2F8AAd2F8AB
d2F8ACd2F8ADd2F8AEd2F8AFd2F8B0d2F8B1d2F8B2d2F8B3d2F8B4d2F8B5d2F8B6d2F8B7d2F8B8d2F8B9d2F8BAd2F8BBd2F8BCd2F8BDd2F8BE
d2F8BFd2F8C0d2F8C1d2F8C2d2F8C3d2F8C4d2F8C5d2F8C6d2F8C7d2F8C8d2F8C9d2F8CAd2F8CBd2F8CCd2F8CDd2F8CEd2F8CFd2F8D0d2F8D1
d2F8D2d2F8D3d2F8D4d2F8D5d2F8D6d2F8D7d2F8D8d2F8D9d2F8DAd2F8DBd2F8DCd2F8DDd2F8DEd2F8DFd2F8E0d2F8E1d2F8E2d2F8E3d2F8E4
d2F8E5d2F8E6d2F8E7d2F8E8d2F8E9d2F8EAd2F8EBd2F8ECd2F8EDd2F8EEd2F8EFd2F8F0d2F8F1d2F8F2d2F8F3d2F8F4d2F8F5d2F8F6d2F8F7
d2F8F8d2F8F9d2F8FAd2F8FBd2F8FCd2F8FDd2F8FEd2F8FFd2F900d2F901d2F902d2F903d2F904d2F905d2F906d2F907d2F908d2F909d2F90A
d2F90Bd2F90Cd2F90Dd2F90Ed2F90Fd2F910d2F911d2F912d2F913d2F914d2F915d2F916d2F917d2F918d2F919d2F91Ad2F91Bd2F91Cd2F91D
d2F91Ed2F91Fd2F920d2F921d2F922d2F923d2F924d2F925d2F926d2F927d2F928d2F929d2F92Ad2F92Bd2F92Cd2F92Dd2F92Ed2F92Fd2F930
d2F931d2F932d2F933d2F934d2F935d2F936d2F937d2F938d2F939d2F93Ad2F93Bd2F93Cd2F93Dd2F93Ed2F93Fd2F940d2F941d2F942d2F943
d2F944d2F945d2F946d2F947d2F948d2F949d2F94Ad2F94Bd2F94Cd2F94Dd2F94Ed2F94Fd2F950d2F951d2F952d2F953d2F954d2F955d2F956
d2F957d2F958d2F959d2F95Ad2F95Bd2F95Cd2F95Dd2F95Ed2F95Fd2F960d2F961d2F962d2F963d2F964d2F965d2F966d2F967d2F968d2F969
d2F96Ad2F96Bd2F96Cd2F96Dd2F96Ed2F96Fd2F970d2F971d2F972d2F973d2F974d2F975d2F976d2F977d2F978d2F979d2F97Ad2F97Bd2F97C
d2F97Dd2F97Ed2F97Fd2F980d2F981d2F982d2F983d2F984d2F985d2F986d2F987d2F988d2F989d2F98Ad2F98Bd2F98Cd2F98Dd2F98Ed2F98F
d2F990d2F991d2F992d2F993d2F994d2F995d2F996d2F997d2F998d2F999d2F99Ad2F99Bd2F99Cd2F99Dd2F99Ed2F99Fd2F9A0d2F9A1d2F9A2
d2F9A3d2F9A4d2F9A5d2F9A6d2F9A7d2F9A8d2F9A9d2F9AAd2F9ABd2F9ACd2F9ADd2F9AEd2F9AFd2F9B0d2F9B1d2F9B2d2F9B3d2F9B4d2F9B5
d2F9B6d2F9B7d2F9B8d2F9B9d2F9BAd2F9BBd2F9BCd2F9BDd2F9BEd2F9BFd2F9C0d2F9C1d2F9C2d2F9C3d2F9C4d2F9C5d2F9C6d2F9C7d2F9C8
d2F9C9d2F9CAd2F9CBd2F9CCd2F9CDd2F9CEd2F9CFd2F9D0d2F9D1d2F9D2d2F9D3d2F9D4d2F9D5d2F9D6d2F9D7d2F9D8d2F9D9d2F9DAd2F9DB
d2F9DCd2F9DDd2F9DEd2F9DFd2F9E0d2F9E1d2F9E2d2F9E3d2F9E4d2F9E5d2F9E6d2F9E7d2F9E8d2F9E9d2F9EAd2F9EBd2F9ECd2F9EDd2F9EE
d2F9EFd2F9F0d2F9F1d2F9F2d2F9F3d2F9F4d2F9F5d2F9F6d2F9F7d2F9F8d2F9F9d2F9FAd2F9FBd2F9FCd2F9FDd2F9FEd2F9FFd2FA00d2FA01
d2FA02d2FA03d2FA04d2FA05d2FA06d2FA07d2FA08d2FA09d2FA0Ad2FA0Bd2FA0Cd2FA0Dd2FA0Ed2FA0Fd2FA10d2FA11d2FA12d2FA13d2FA14
d2FA15d2FA16d2FA17d2FA18d2FA19d2FA1Ad2FA1Bd2FA1Cd2FA1DdF900dF901dF902dF903dF904dF905dF906dF907dF908dF909dF90AdF90B
dF90CdF90DdF90EdF90FdF910dF911dF912dF913dF914dF915dF916dF917dF918dF919dF91AdF91BdF91CdF91DdF91EdF91FdF920dF921dF922
dF923dF924dF925dF926dF927dF928dF929dF92AdF92BdF92CdF92DdF92EdF92FdF930dF931dF932dF933dF934dF935dF936dF937dF938dF939
dF93AdF93BdF93CdF93DdF93EdF93FdF940dF941dF942dF943dF944dF945dF946dF947dF948dF949dF94AdF94BdF94CdF94DdF94EdF94FdF950
dF951dF952dF953dF954dF955dF956dF957dF958dF959dF95AdF95BdF95CdF95DdF95EdF95FdF960dF961dF962dF963dF964dF965dF966dF967
dF968dF969dF96AdF96BdF96CdF96DdF96EdF96FdF970dF971dF972dF973dF974dF975dF976dF977dF978dF979dF97AdF97BdF97CdF97DdF97E
dF97FdF980dF981dF982dF983dF984dF985dF986dF987dF988dF989dF98AdF98BdF98CdF98DdF98EdF98FdF990dF991dF992dF993dF994dF995
dF996dF997dF998dF999dF99AdF99BdF99CdF99DdF99EdF99FdF9A0dF9A1dF9A2dF9A3dF9A4dF9A5dF9A6dF9A7dF9A8dF9A9dF9AAdF9ABdF9AC
dF9ADdF9AEdF9AFdF9B0dF9B1dF9B2dF9B3dF9B4dF9B5dF9B6dF9B7dF9B8dF9B9dF9BAdF9BBdF9BCdF9BDdF9BEdF9BFdF9C0dF9C1dF9C2dF9C3
dF9C4dF9C5dF9C6dF9C7dF9C8dF9C9dF9CAdF9CBdF9CCdF9CDdF9CEdF9CFdF9D0dF9D1dF9D2dF9D3dF9D4dF9D5dF9D6dF9D7dF9D8dF9D9dF9DA
dF9DBdF9DCdF9DDdF9DEdF9DFdF9E0dF9E1dF9E2dF9E3dF9E4dF9E5dF9E6dF9E7dF9E8dF9E9dF9EAdF9EBdF9ECdF9EDdF9EEdF9EFdF9F0dF9F1
dF9F2dF9F3dF9F4dF9F5dF9F6dF9F7dF9F8dF9F9dF9FAdF9FBdF9FCdF9FDdF9FEdF9FFdFA00dFA01dFA02dFA03dFA04dFA05dFA06dFA07dFA08
dFA09dFA0AdFA0BdFA0CdFA0DdFA0EdFA0FdFA10dFA11dFA12dFA13dFA14dFA15dFA16dFA17dFA18dFA19dFA1AdFA1BdFA1CdFA1DdFA1EdFA1F
dFA20dFA21dFA22dFA23dFA24dFA25dFA26dFA27dFA28dFA29dFA2AdFA2BdFA2CdFA2DdFA2EdFA2FdFA30dFA31dFA32dFA33dFA34dFA35dFA36
dFA37dFA38dFA39dFA3AdFA3BdFA3CdFA3DdFA3EdFA3FdFA40dFA41dFA42dFA43dFA44dFA45dFA46dFA47dFA48dFA49dFA4AdFA4BdFA4CdFA4D
dFA4EdFA4FdFA50dFA51dFA52dFA53dFA54dFA55dFA56dFA57dFA58dFA59dFA5AdFA5BdFA5CdFA5DdFA5EdFA5FdFA60dFA61dFA62dFA63dFA64
dFA65dFA66dFA67dFA68dFA69dFA6AdFA6BdFA6CdFA6DdFA70dFA71dFA72dFA73dFA74dFA75dFA76dFA77dFA78dFA79dFA7AdFA7BdFA7CdFA7D
dFA7EdFA7FdFA80dFA81dFA82dFA83dFA84dFA85dFA86dFA87dFA88dFA89dFA8AdFA8BdFA8CdFA8DdFA8EdFA8FdFA90dFA91dFA92dFA93dFA94
dFA95dFA96dFA97dFA98dFA99dFA9AdFA9BdFA9CdFA9DdFA9EdFA9FdFAA0dFAA1dFAA2dFAA3dFAA4dFAA5dFAA6dFAA7dFAA8dFAA9dFAAAdFAAB
dFAACdFAADdFAAEdFAAFdFAB0dFAB1dFAB2dFAB3dFAB4dFAB5dFAB6dFAB7dFAB8dFAB9dFABAdFABBdFABCdFABDdFABEdFABFdFAC0dFAC1dFAC2
dFAC3dFAC4dFAC5dFAC6dFAC7dFAC8dFAC9dFACAdFACBdFACCdFACDdFACEdFACFdFAD0dFAD1dFAD2dFAD3dFAD4dFAD5dFAD6dFAD7dFAD8dFAD9
bRADICAL BAMBOOcBLUEcBOLT OF CLOTHcBONEcBOXcBRUSH ONEdTWOcC-SIMPLIFIED BIRDeCARTeDRAGONeEATeEVENeFISHeFLYeFROGeGATE
eGOLDeHORSEeLEAFeLONGeSALTeSEEeSHELLeSILKeSPEECHeTANNED LEATHEReTOOTHeTURTLEeWINDcCHOKEcCITYcCIVILIANcCLIFFcCLOTHES
cCOWcDEATHcDIVINATIONcDOGcEAT ONEdTHREEdTWOcEWEcEYEcFIREcFOOTcGHOSTcGRASS ONEdTHREEdTWOcHANDcHEADcHEART ONEdTWOcHORN
cJ-SIMPLIFIED DRAGONeEVENeTOOTHeTURTLEcJADEcKNIFE ONEdTWOcLAME FOURdONEdTHREEdTWOcLONG ONEdTWOcMEATcMESHcMOONcMORTAR
cMOTHERcMOUND ONEdTWOcNET FOURdONEdTHREEdTWOcOLDcPAW ONEdTWOcPERSONcRAINcRAMcRAPcREPEATcSEALcSECOND ONEdTHREEdTWO
cSHEEPcSILKcSIMPLIFIED HALF TREE TRUNKdHORNdWALKdWHEATdYELLOWcSMALL ONEdTWOcSNAKEcSNOUT ONEdTWOcSPIRIT ONEdTWOcSUN
cTABLEcTHREADcTIGERcTURTLEcWALK ONEdTWOcWATER ONEdTWOcWEST ONEdTWObSTROKE BXGcDcHcHGcHPcHPWGcHXWGcHZcHZGcHZTcHZWcHZWG
cHZZcHZZPcHZZZcHZZZGcNcPcPDcPGcPZcQcScSGcSPcSTcSWcSWGcSWZcSZcSZWGcSZZcTcTNcWGcXGaCLAMSHELL MOBILE PHONEaCLAPPER BOARD
aCLAPPING HANDS SIGNaCLASSICAL BUILDINGaCLEAR SCREEN SYMBOLaCLINKING BEER MUGSbGLASSESaCLIPBOARD
aCLOCK FACE EIGHT OCLOCKcEIGHT-THIRTYcELEVEN OCLOCKcELEVEN-THIRTYcFIVE OCLOCKcFIVE-THIRTYcFOUR OCLOCKcFOUR-THIRTY
cNINE OCLOCKcNINE-THIRTYcONE OCLOCKcONE-THIRTYcSEVEN OCLOCKcSEVEN-THIRTYcSIX OCLOCKcSIX-THIRTYcTEN OCLOCKcTEN-THIRTY
cTHREE OCLOCKcTHREE-THIRTYcTWELVE OCLOCKcTWELVE-THIRTYcTWO OCLOCKcTWO-THIRTYaCLOCKWISE CLOSED CIRCLE ARROW
bCONTOUR INTEGRALbDOWNWARDS AND UPWARDS OPEN CIRCLE ARROWSbGAPPED CIRCLE ARROWbINTEGRALbOPEN CIRCLE ARROW
bRIGHT AND LEFT SEMICIRCLE ARROWSbRIGHTWARDS AND LEFTWARDS OPEN CIRCLE ARROWSgARROWS WITH CIRCLED ONE OVERLAY
bTOP SEMICIRCLE ARROWbTRIANGLE-HEADED OPEN CIRCLE ARROWaCLOSE UPaCLOSED BOOKbINTERSECTION WITH SERIFSbLOCK WITH KEY
bMAILBOX WITH LOWERED FLAGdRAISED FLAGbSUBSETbSUBSET OR EQUAL TObSUPERSETbSUPERSET OR EQUAL TObUMBRELLA
bUNION WITH SERIFSdSERIFS AND SMASH PRODUCTaCLOUDaCLOUD WITH LIGHTNINGcRAINcSNOWcTORNADOaCLOWN FACEaCOATaCOCKROACH
aCOCKTAIL GLASSaCOCONUTaCOFFINaCOINaCOLLISION SYMBOLaCOLONaCOLON EQUALSbSIGNaCOMBINING ACUTE ACCENTcACCENT BELOW
cTONE MARKbACUTE-GRAVE-ACUTEcMACRONbALMOST EQUAL TO ABOVEeBELOWbANNUITY SYMBOLbANTICLOCKWISE ARROW ABOVEcRING OVERLAY
bASTERISK ABOVEcBELOWbBINDU BELOWbBREVEbBREVE BELOWbBREVE-MACRONbBRIDGE ABOVEcBELOWbCANDRABINDUbCARONbCARON BELOW
bCEDILLAbCIRCUMFLEX ACCENTcACCENT BELOWbCLOCKWISE ARROW ABOVEcRING OVERLAYbCOMMA ABOVEcABOVE RIGHTcBELOW
bCONJOINING MACRONcMACRON BELOWbCYRILLIC DASIA PNEUMATAcHUNDRED MILLIONS SIGNdTHOUSANDS SIGNcKAVYKAcLETTER AdBE
dBIG YUSdCHEdDEdDJERVdEFdELdEMdENdERdESdES-TEdFITAdGHEdHAdHARD SIGNdIdIEdIOTIFIED AeBIG YUSeEdKAdLITTLE YUS
dMONOGRAPH UKdOdOMEGAdPEdSHAdSHCHAdSOFT SIGNdTEdTSEdUdUKRAINIAN IEdVEdYATdYERUdYIdYUdZEdZHEcMILLIONS SIGN
cPALATALIZATIONcPAYEROKcPOKRYTIEcPSILI PNEUMATAcTEN MILLIONS SIGNcTHOUSAND MILLIONS SIGNcTITLOcTITLO LEFT HALF
dRIGHT HALFcVZMETbDELETION MARKbDEVANAGARI DIGIT EIGHTdFIVEdFOURdNINEdONEdSEVENdSIXdTHREEdTWOdZEROcLETTER AdKAdNAdPA
dRAdUdVIcSIGN AVAGRAHAbDIAERESISbDIAERESIS BELOWbDIAERESIS-RINGbDOT ABOVEcABOVE LEFTdRIGHTcBELOWcBELOW LEFT
bDOTTED ACUTE ACCENTcGRAVE ACCENTbDOUBLE ACUTE ACCENTcBREVEcBREVE BELOWcCIRCUMFLEX ABOVEcGRAVE ACCENTcINVERTED BREVE
dBREVE BELOWcLOW LINEcMACRONcMACRON BELOWcOPEN MARK BELOWcOVERLINEcPARENTHESES ABOVEcPLUS SIGN ABOVEeBELOW
cRIGHTWARDS ARROW BELOWcRING BELOWcTILDEcTILDE LEFT HALFdRIGHT HALFcVERTICAL LINE ABOVEeBELOWdSTROKE OVERLAY
bDOUBLED CIRCUMFLEX ACCENTbDOWN TACK BELOWbDOWNWARDS ARROWbENCLOSING CIRCLEcCIRCLE BACKSLASHcDIAMONDcKEYCAPcSCREEN
cSQUAREcUPWARD POINTING TRIANGLEbEQUALS SIGN BELOWbFERMATAbFOUR DOTS ABOVEbGLAGOLITIC LETTER AZUdBIG YUSdBUKYdCHRIVI
dDJERVIdDOBROdFITAdFRITUdGLAGOLIdHERUdIdINITIAL IZHEdIOTATED BIG YUSeSMALL YUSdIZHEdKAKOdLJUDIJEdMYSLITEdNASHIdONU
dPOKOJIdRITSIdSHAdSHTAdSLOVOdSMALL YUSdTSIdTVRIDOdUKUdVEDEdYATIdYERIdYERUdYESTUdYOdYUdZEMLJAdZHIVETE
bGRANTHA DIGIT FIVEdFOURdONEdSIXdTHREEdTWOdZEROcLETTER AdKAdNAdPAdVIbGRAPHEME JOINERbGRAVE ACCENTcACCENT BELOW
cTONE MARKbGRAVE-ACUTE-GRAVEcMACRONbGREEK DIALYTIKA TONOScKORONIScMUSICAL PENTASEMEdTETRASEMEdTRISEMEcPERISPOMENI
cYPOGEGRAMMENIbHOMOTHETIC ABOVEbHOOK ABOVEbHORNbINFINITYbINVERTED BREVEcBREVE BELOWcBRIDGE BELOWcDOUBLE ARCH ABOVE
eBELOWbIS BELOWbKATAKANA-HIRAGANA SEMI-VOICED SOUND MARKdVOICED SOUND MARKbKAVYKA ABOVE LEFTdRIGHT
bLATIN LETTER SMALL CAPITAL GfLfMfNfRcSMALL LETTER AeA WITH DIAERESISeAEeALPHAeAOeAVeBeBETAeCeC CEDILLAeDeEeESHeETHeF
eFLATTENED OPEN A ABOVEeGeHeIeINSULAR DfGfRfTeKeLeL WITH DOUBLE MIDDLE TILDEeLONG SeMeNeOeO WITH DIAERESIS
gLIGHT CENTRALIZATION STROKEePeReR BELOWfROTUNDAeSeSCHWAeTeTURNED W BELOWeUeU WITH DIAERESIS
gLIGHT CENTRALIZATION STROKEeVeWeW BELOWeXeZbLEFT ANGLE ABOVEdBELOWcARROW ABOVEdBELOWcARROWHEAD ABOVEdBELOW
cHALF RING ABOVEeBELOWcHARPOON ABOVEcPARENTHESIS ABOVE LEFTdBELOW LEFTcRIGHT ARROW ABOVEeBELOWcTACK BELOW
bLEFTWARDS ARROW OVERLAYcHARPOON WITH BARB DOWNWARDSbLIGATURE LEFT HALFdHALF BELOWcRIGHT HALFdHALF BELOW
bLIGHT CENTRALIZATION STROKE BELOWbLONG DOUBLE SOLIDUS OVERLAYcSOLIDUS OVERLAYcSTROKE OVERLAYcVERTICAL LINE OVERLAY
bLOW LINEbMACRONbMACRON BELOWcLEFT HALFdHALF BELOWcRIGHT HALFdHALF BELOWbMACRON-ACUTEcBREVEcGRAVEbMINUS SIGN BELOW
bNOT TILDE ABOVEbNUMBER SIGN ABOVEbOGONEKbOGONEK ABOVEbOLD PERMIC LETTER ANeDOIeNENOEeSIIeZATAbOPEN MARK BELOW
bOVERLINEbPALATALIZED HOOK BELOWbPARENTHESES ABOVEcBELOWcOVERLAYbPLUS SIGN ABOVEdBELOWbRETROFLEX HOOK BELOW
bREVERSE SOLIDUS OVERLAYbREVERSED COMMA ABOVEbRIGHT ARROW ABOVEdBELOWcARROWHEAD ABOVEdAND DOWN ARROWHEAD BELOW
eUP ARROWHEAD BELOWdBELOWcHALF RING ABOVEeBELOWcHARPOON ABOVEcPARENTHESIS ABOVE RIGHTdBELOW RIGHTcTACK BELOW
bRIGHTWARDS HARPOON WITH BARB DOWNWARDSbRING ABOVEcBELOWcOVERLAYbSEAGULL BELOWbSHORT SOLIDUS OVERLAYcSTROKE OVERLAY
cVERTICAL LINE OVERLAYbSNAKE BELOWbSQUARE BELOWcBRACKETS ABOVEbSTRONG CENTRALIZATION STROKE BELOWbSUSPENSION MARK
bTHREE DOTS ABOVEbTILDEbTILDE BELOWcLEFT HALF BELOWcOVERLAYcRIGHT HALF BELOWbTRIPLE ACUTE ACCENTcDOTcUNDERDOT
bTURNED COMMA ABOVEbUP TACK ABOVEdBELOWbUPWARDS ARROW BELOWbUR ABOVEbUS ABOVEbVERTICAL LINE ABOVEdBELOWcTILDE
bWIDE BRIDGE ABOVEcINVERTED BRIDGE BELOWbWIGGLY LINE BELOWbX ABOVEcBELOWbX-X BELOWbZIGZAG ABOVEcBELOWaCOMETaCOMMA
aCOMMERCIAL ATbMINUS SIGNaCOMPASSaCOMPLEMENTaCOMPOSITION SYMBOLaCOMPRESSIONaCONFETTI BALLaCONFOUNDED FACE
aCONFUSED FACEaCONGRUENT WITH DOT ABOVEaCONICAL TAPERaCONJUNCTIONaCONSTRUCTION SIGNbWORKERaCONTAINS AS MEMBER
cNORMAL SUBGROUPdSUBGROUP OR EQUAL TObWITH LONG HORIZONTAL STROKEcOVERBARcVERTICAL BAR AT END OF HORIZONTAL STROKE
aCONTINUOUS UNDERLINE SYMBOLaCONTOUR INTEGRALaCONTROL KNOBSbSEQUENCE INTRODUCERaCONVENIENCE STOREaCOOKED RICEaCOOKIE
aCOOKINGaCOPTIC CAPITAL LETTER AKHMIMIC KHEIdALFAdBOHAIRIC KHEIdCROSSED SHEIdCRYPTOGRAMMIC EIEeGANGIAeNIeSHEIdDALDA
dDEIdDIALECT-P ALEFfHORIfKAPAfNIdEIEdFEIdFIdGAMMAdGANGIAdHATEdHORIdIAUDAdKAPAdKHEIdKHIdKSIdL-SHAPED HAdLAULAdMIdNIdO
dOLD COPTIC AINfDJAfESHfGANGIAfHAfHATfHEIfHORIfOOUfSHEIfSHIMAeNUBIAN NGIfNYIfSHIMAfWAUdOOUdPIdPSIdROdSAMPIdSHEIdSHIMA
dSIMAdSOUdTAUdTHETHEdUAdVIDAdZATAbCOMBINING NI ABOVEcSPIRITUS ASPERdLENISbEPACT DIGIT EIGHTdFIVEdFOURdNINEdONEdSEVEN
dSIXdTHREEdTWOcNUMBER EIGHT HUNDREDdEIGHTYdFIFTYdFIVE HUNDREDdFORTYdFOUR HUNDREDdNINE HUNDREDdNINETYdONE HUNDRED
dSEVEN HUNDREDdSEVENTYdSIX HUNDREDdSIXTYdTENdTHIRTYdTHREE HUNDREDdTWENTYdTWO HUNDREDcTHOUSANDS MARKbFRACTION ONE HALF
bFULL STOPbMORPHOLOGICAL DIVIDERbOLD NUBIAN DIRECT QUESTION MARKdFULL STOPdINDIRECT QUESTION MARKdVERSE DIVIDER
bSMALL LETTER AKHMIMIC KHEIdALFAdBOHAIRIC KHEIdCROSSED SHEIdCRYPTOGRAMMIC EIEeGANGIAeNIeSHEIdDALDAdDEIdDIALECT-P ALEF
fHORIfKAPAfNIdEIEdFEIdFIdGAMMAdGANGIAdHATEdHORIdIAUDAdKAPAdKHEIdKHIdKSIdL-SHAPED HAdLAULAdMIdNIdOdOLD COPTIC AINfDJA
fESHfGANGIAfHAfHATfHEIfHORIfOOUfSHEIfSHIMAeNUBIAN NGIfNYIfSHIMAfWAUdOOUdPIdPSIdROdSAMPIdSHEIdSHIMAdSIMAdSOUdTAUdTHETHE
dUAdVIDAdZATAbSYMBOL KAIcKHI ROcMI ROcPI ROcSHIMA SIMAcSTAUROScTAU ROaCOPYLEFT SYMBOLaCOPYRIGHT SIGNaCORAL
aCORNISH VERSE DIVIDERaCORRESPONDS TOaCOUCH AND LAMPaCOUNTERBOREaCOUNTERSINKaCOUNTING ROD TENS DIGIT EIGHTeFIVEeFOUR
eNINEeONEeSEVENeSIXeTHREEeTWOcUNIT DIGIT EIGHTeFIVEeFOUReNINEeONEeSEVENeSIXeTHREEeTWOaCOUPLE WITH HEARTaCOWaCOW FACE
aCRaCRABaCREDIT CARDaCRESCENT MOONaCRICKETaCRICKET BAT AND BALLaCROCODILEaCROISSANTaCROSS MARKbOF JERUSALEMcLORRAINE
bPATTY WITH LEFT CROSSBARdRIGHT CROSSBARbPOMMEEbPOMMEE WITH HALF-CIRCLE BELOWaCROSSED FLAGS
bNEGATIVE SQUARED LATIN CAPITAL LETTER PbSWORDSaCROSSING LANESaCROWNaCRUTCHaCRUZEIRO SIGNaCRYING CAT FACEbFACE
aCRYSTAL BALLaCSIaCUBE ROOTaCUCUMBERaCUNEIFORM NUMERIC SIGN EIGHT ASHeDISHeGESH2eSHAR2eUeU VARIANT FORM
eVARIANT FORM USSUgUSSU3dELAMITE FIFTYeFORTYeONE THIRDeTWO THIRDSdFIVE ASHeASH TENUeBAN2eBAN2 VARIANT FORMeBURUeDISH
eGESH2eGESHUeSHAR2eSHARUeSIXTHS DISHeUeU VARIANT FORMdFOUR ASHeASH TENUeBAN2eBAN2 VARIANT FORMeBURUeDISHeGESH2eGESHU
eSHAR2eSHARUeUeU VARIANT FORMeVARIANT FORM LIMMUgLIMMU AhBgLIMMU4dNIGIDAESHdNIGIDAMINdNINE ASHeDISHeGESH2eSHAR2eU
eU VARIANT FORMeVARIANT FORM ILIMMUgILIMMU AgILIMMU3gILIMMU4dOLD ASSYRIAN ONE QUARTERgSIXTHdONE BAN2eBURUeEIGHTH ASH
eESHE3eGESH2eGESHUeHALF GUReQUARTER ASHfGUReSHARUeTHIRD DISHfVARIANT FORM AdSEVEN ASHeDISHeGESH2eSHAR2eU
eU VARIANT FORMeVARIANT FORM IMIN AhBgIMIN3dSHAR2 TIMES GAL PLUS DISHhMINdSIX ASHeASH TENUeDISHeGESH2eSHAR2eU
eU VARIANT FORMeVARIANT FORM ASH9dTHREE ASHeASH TENUeBAN2eBURUeBURU VARIANT FORMeDISHeGESH2eGESHUeSHAR2
eSHAR2 VARIANT FORMeSHARUeSHARU VARIANT FORMeVARIANT FORM ESH16gESH21dTWO ASHeASH TENUeBAN2eBURUeESHE3eGESH2eGESHU
eSHAR2eSHARUeTHIRDS DISHfVARIANT FORM AbPUNCTUATION SIGN DIAGONAL COLONeQUADCOLONeTRICOLONdOLD ASSYRIAN WORD DIVIDER
dVERTICAL COLONbSIGN AcA TIMES AeBADeGAN2 TENUeHAeIGIeLAGAR GUNUeMUSHeSAGcA2cABcAB GUNUdTIMES ASH2eDUN3 GUNUeGAL
eGAN2 TENUeHAeIGI GUNUeIMINeLAGABeNUNeNUN TENUeSHESHeSHU2eU PLUS U PLUS UcAB2cAB2 TIMES AeBALAGeGAN2 TENUeME PLUS EN
eSHA3eTAK4cADcAD TIMES ESH2cAKcAK TIMES ERIN2eSHITA PLUS GISHcALcAL TIMES ALeDIM2eGISHeHAeKAD3eKIeSHEeUSHcALANcALEPH
cAMARcAMAR TIMES KUGeSHEcANcAN OVER ANdPLUS NAGA OPPOSING AN PLUS NAGAfSQUAREDdTHREE TIMEScANSHEcAPINcARAD
cARAD TIMES KURcARKABcASAL2cASHcASH KABA TENUdOVER ASH OVER ASHgASH CROSSING ASH OVER ASH OVER ASH
fTUG2 OVER TUG2 TUG2 OVER TUG2 PAPdZIDA TENUcASH2cASHGABcBAcBADcBAD TIMES DISH TENUcBAG3cBAHAR2cBAHAR2 TIMES AB2eNIeZA
cBALcBAL OVER BALcBALAGcBARcBARA2cBIcBI TIMES AeGAReIGI GUNUcBUcBU CROSSING BUdOVER BU ABfTIMES NA2fUNcBULUG
cBULUG OVER BULUGcBURcBUR2cDAcDA TIMES TAK4cDAGcDAG KISIM5 TIMES A PLUS MASHfAMARfBALAGfBIfGAfGA PLUS MASHfGIfGIR2fGUD
fHAfIRfIR PLUS LUfKAKfLAfLUfLU PLUS MASH2fLUMfNEfPAP PLUS PAPfSIfTAK4fU2 PLUS GIR2hMASHfUSHdTIMES KURcDAG3cDAMcDAR
cDARA3cDARA4cDIcDIBcDIMcDIM TIMES IGIeSHEeU U UcDIM2cDIM2 TIMES UDcDINcDIN KASKAL U GUNU DISHcDISHcDISH PLUS SHUcDU
cDU GUNUdOVER DUdSHESHIGcDUBcDUB TIMES ESH2eSHEcDUB2cDUGcDUG TIMES ANSHEeASHeASH AT LEFTeDINeDUNeERIN2eGAeGIeGIR2 GUNU
eGISHeHAeHIeIGI GUNUeKASKALeKUReKUSHU2eKUSHU2 PLUS KASKALeLAK-020eLAMeLAM TIMES KUReLUH PLUS GISHeMASHeMESeMIeNIePI
eSHEeSI GUNUcDUGUDcDUHcDUNcDUN3cDUN3 GUNUdGUNU GUNUcDUN4cDUR2cEcE OVER E NUN OVER NUNdTIMES PAPcE2
cE2 TIMES A PLUS HA PLUS DAeGAReKUReMIePAPeSALeSHEeUcEDINcEGIRcELcENcEN CROSSING ENdOPPOSING ENdSQUAREDdTIMES GAN2
eGAN2 TENUeMEcERENcERIN2cERIN2 XcESH2cESH2 CROSSING ESH2cEZENcEZEN SHESHIG TIMES ASHfHIfIGI GUNUfLAfLALfMEfMESfSU
dTIMES AeA PLUS LALgLAL TIMES LALeANeBADeDUN3 GUNUfGUNU GUNUeGUDeHAeHA GUNUeIGI GUNUeKASKALeKASKAL SQUAREDeKU3eLA
eLAL TIMES LALeLIeLUeSHEeSUeU2eUDcGAcGA GUNUcGA2cGA2 OVER GA2dTIMES A PLUS DA PLUS HAgHAgIGIeAB2 TENU PLUS TABeAN
eAN PLUS KAK PLUS AeASHeASH2eASH2 PLUS GALeBADeBAHAR2eBAR PLUS RAeBUReBUR PLUS RAeDAeDIeDIM GUNUfTIMES SHEeDUB
eDUG TIMES IGI GUNUgKASKALeELeEL PLUS LAeENeEN TIMES GAN2 TENUeERENeGAeGAN2 TENUeGAReGAR PLUS DIgNEeGIeGI4eGI4 PLUS A
eGIR2 PLUS SUeHA PLUS AgLU PLUS ESH2eHALeHAL PLUS LAeHI PLUS LIeHUB2eIGI GUNUeISH PLUS HU PLUS ASHeKAKeKASKALeKID
eKID PLUS LALeKU3 PLUS ANeKUSHU2 PLUS KASKALeLAeLAMeLAM TIMES KUReLUHeME PLUS ENeMIeMUSHeNEeNE PLUS E2gGIeNUN
eNUN OVER NUNePAeSALeSAReSHEeSHE PLUS TUReSHIDeSHIMeSUMeTAK4eUeUDeUD PLUS DUeZIZ2cGABAcGABA CROSSING GABA
dROTATED NINETY DEGREEScGADcGAD OVER GAD GAR OVER GARcGALcGAL GAD OVER GAD GAR OVER GARcGALAMcGAMcGANcGAN2
cGAN2 CROSSING GAN2dOVER GAN2dTENUcGARcGAR3cGASHANcGE22cGESHTINcGESHTIN TIMES KUReUcGIcGI CROSSING GIdTIMES EeUcGI4
cGI4 CROSSING GI4dOVER GI4cGIDIMcGIGcGIR2cGIR2 GUNUcGIR3cGIR3 TIMES A PLUS IGIeGAN2 TENUeIGIeLU PLUS IGIePAcGISALcGISH
cGISH CROSSING GISHdTENUdTIMES BADeGISH CROSSING GISHeTAK4cGUcGU CROSSING GUcGU2cGU2 GUNUdTIMES IGI GUNUeKAK
eKAK TIMES IGI GUNUeNUNeSAL PLUS TUG2cGUDcGUD OVER GUD LUGALdPLUS GISH TIMES TAK4dTIMES A PLUS KUReKURcGULcGUM
cGUM TIMES SHEcGURcGUR7cGURUNcGURUSHcHAcHA GUNUdTENUdTENU GUNUcHALcHIcHI TIMES ASHeASH OVER HI TIMES ASHeASH2eBADeDISH
eGADeKINeNUNeSHEeUcHUcHUB2cHUB2 TIMES ANeHALeKASKALeLISHeUDcHUL2cHUSHcIcI AcIBcIDIMcIDIM OVER IDIM BURfSQUAREDcIGcIGI
cIGI DIBdGUNUdOVER IGI SHIR OVER SHIR UD OVER UDdRIcILcIL TIMES GAN2 TENUcIL2cIMcIM CROSSING IMdOPPOSING IMdSQUARED
dTIMES TAK4cIMINcINcIRcISHcKAcKA TIMES AeADeAD PLUS KU3eANSHEeASH2eASH3eBADeBALAGeBAReBIeBUeERIN2eESH2eGAeGAL
eGAN2 TENUeGAReGAR PLUS SHA3 PLUS AeGIeGIR2eGISHeGISH CROSSING GISHfPLUS SAReGUeGUDeGUR7eHI TIMES ASH2eIGIeIMeKAeKAK
eKIeKIDeLIeLUeLUMeMEeME PLUS DUgGIgTEeMIeMI PLUS NUNUZeNEeNUNePAePIeRUeSAeSAReSHAeSHEeSHIDeSHUeSHULeSIGeSUHUReTAReTUeU
eU U UeU2eUDeUMUM TIMES PAeUReUR2eUSHeZIcKA2cKA2 CROSSING KA2cKABcKAD2cKAD3cKAD4cKAD5cKAD5 OVER KAD5cKAK
cKAK TIMES IGI GUNUcKALcKAL CROSSING KALdTIMES BADcKAM2cKAM4cKAP ELAMITEcKASKAL
cKASKAL LAGAB TIMES U OVER LAGAB TIMES UdOVER KASKAL LAGAB TIMES U OVER LAGAB TIMES UcKESH2cKIcKI TIMES BADeUeUDcKID
cKINcKISALcKISHcKISIM5cKISIM5 OVER KISIM5cKUcKU OVER HI TIMES ASH2 KU OVER HI TIMES ASH2cKU3cKU4cKU4 VARIANT FORMcKU7
cKULcKUL GUNUcKUNcKURcKUR OPPOSING KURcKUSHU2cKWU318cLAcLAGABcLAGAB SQUAREDdTIMES AeA PLUS DA PLUS HAgGARgLALeALeAN
eASH ZIDA TENUeBADeBIeDAReENeGAeGAReGIeGUDeGUD PLUS GUDeHAeHALeHI TIMES NUNeIGI GUNUeIMeIM PLUS HAgLUeKIeKINeKU3eKUL
eKUL PLUS HI PLUS AeLAGABeLISHeLUeLULeMEeME PLUS ENeMUSHeNEeSHE PLUS SUMeSHITA PLUS GISH PLUS ERIN2hTENUeSHU2
eSHU2 PLUS SHU2eSUMeTAGeTAK4eTE PLUS A PLUS SU PLUS NAeUeU PLUS AgU PLUS UeU2 PLUS ASHeUDeUSHeZU OVER ZUcLAGAR
cLAGAR GUNUdGUNU OVER LAGAR GUNU SHEdTIMES SHEeSHE PLUS SUMcLAHSHUcLAK-003d021d025d030d050d051d062
d079 OVER LAK-079 GUNUd080d081 OVER LAK-081d092d130d142d210d219d220d225d228d238d265d266d343d347d348d383d384d390d441
d449d449 TIMES GUfIGIfPAP PLUS LU3hPAP PLUS LU3fU2 PLUS BAd450d457d470d483d490d492d493d495d550d608d617d617 TIMES ASH
fBADfDUN3 GUNU GUNUfKU3fLAfTARfTEfU2fUDfURUDAd636d648d648 TIMES DUBfGAfIGIfIGI GUNUfNIfPAP PLUS PAP PLUS LU3
fSHESH PLUS KIfUDfURUDAd724d749cLALcLAL TIMES LALcLAMcLAM TIMES KUReKUR PLUS RUcLIcLILcLIMMU2cLISHcLUcLU TIMES BADcLU2
cLU2 CROSSING LU2dGUNU TIMES ASHdOPPOSING LU2dSHESHIGdSHESHIG TIMES BADdSQUAREDdTENUdTIMES ALeBADeDISHeESH2
eESH2 PLUS LALfTENUeGAN2 TENUeHALeHI TIMES BADeIMeKAD2eKAD3eKAD3 PLUS ASHeKIeLA PLUS ASHeLAGABeME PLUS ENeNEeNUePAP
ePAP PLUS PAP PLUS LU3eSHUeSI PLUS ASHeSIK2 PLUS BUeTAK4eTUG2cLU3cLUGALcLUGAL OPPOSING LUGALdOVER LUGALdSHESHIGcLUH
cLULcLUMcLUM OVER LUMeLUM GAR OVER GARcMAcMA GUNUdTIMES TAK4cMA2cMAHcMARcMASHcMASH2cMEcMEScMESHcMIcMI PLUS ZA7cMINcMU
cMU OVER MUcMUGcMUG GUNUcMUNSUBcMURGU2cMUSHcMUSH CROSSING MUSHdOVER MUSHeMUSH TIMES A PLUS NAgGAgKAKdTIMES AeKUReZA
cMUSH3cMUSH3 GUNUdTIMES AeA PLUS DIeDIeZAcNAcNA2cNA4cNAGAcNAGA INVERTEDdOPPOSING NAGAdTIMES SHU TENUcNAGARcNAM
cNAM NUTILLUcNAM2cNEcNE SHESHIGdTIMES AeUDcNIcNI TIMES EcNI2cNIMcNIM TIMES GAN2 TENUeGAR PLUS GAN2 TENUcNINcNIN9
cNINDA2cNINDA2 TIMES ANeASHeASH PLUS ASHeBALeDIM GUNUeGIeGISHeGUDeGULeHIeKESH2eLAK-050eMASHeME PLUS GAN2 TENUeNEeNUN
ePAP PLUS PAPeSHEeSHE PLUS A ANgASHgASH PLUS ASHeUeU PLUS UeU2 PLUS ASHeURUDAeUSHcNISAGcNUcNU11
cNU11 OVER NU11 BUR OVER BURdROTATED NINETY DEGREESdTENUcNUNcNUN CROSSING NUNeNUN LAGAR OVER LAGARdLAGAR TIMES GAR
fMASHfSALfSAL OVER NUN LAGAR TIMES SALfUSHdOVER NUNdTENUcNUNUZcNUNUZ AB2 TIMES ASHGABfBIfDUGfGUDfIGI GUNUfKAD3fLAfNE
fSILA3fU2dKISIM5 TIMES BIfBI UcPAcPADcPANcPAPcPESH2cPESH2 ASTERISKcPIcPI CROSSING PIdTIMES AeABeBIeBUeEeIeIBeUeU2cPIR2
cPIRIGcPIRIG OPPOSING PIRIGdTIMES KALeUDeZAcRAcRABcRIcRUcSAcSAGcSAG GUNUdGUNU TIMES HAdNUTILLUdOVER SAGdTIMES AeDUeDUB
eENeHAeIGI GUNUeKAKeKUReLUMeMIeNUNeSALeSHE AT LEFTeSHIDeTABeTAK4eU2eUBeUMeUReUSHcSALcSAL LAGAB TIMES ASH2cSANGA2cSAR
cSHAcSHA3cSHA3 TIMES AeBADeGISHeNEeSHU2eTUReUeU PLUS AcSHA6cSHA6 TENUcSHAB6cSHAR2cSHEcSHE HUdOVER SHE
eSHE GAD OVER GAD GAR OVER GARfTAB OVER TAB GAR OVER GARdPLUS HUB2eNAM2eSARcSHEG9cSHENcSHESHcSHESH2cSHESHLAMcSHID
cSHID TIMES AeIMcSHIMcSHIM TIMES AeBALeBULUGeDINeGAReIGIeIGI GUNUeKUSHU2eLULeMUGeSALcSHINIGcSHIR
cSHIR OVER SHIR BUR OVER BURdTENUcSHITAcSHUcSHU OVER INVERTED SHUcSHU2cSHU2 PLUS DUG TIMES NIeE2 TIMES ANcSHUBURcSI
cSI GUNUdTIMES TAK4cSIGcSIG4cSIG4 OVER SIG4 SHU2cSIK2cSILA3cSUcSU OVER SUcSUDcSUD2cSUHURcSUMcSUMASHcSURcSUR9cTA
cTA ASTERISKdGUNUdTIMES HIeMIcTABcTAB OVER TAB NI OVER NI DISH OVER DISHdSQUAREDcTAGcTAG TIMES BIeGUDeSHEeSHUeTUG2eUD
cTAK4cTAK4 PLUS SAGcTARcTEcTE GUNUcTIcTI TENUcTI2cTILcTIRcTIR OVER TIReTIR GAD OVER GAD GAR OVER GARdTIMES TAK4cTU
cTUG2cTUKcTUMcTUM TIMES GAN2 TENUeTHREE DISHcTURcTUR OVER TUR ZA OVER ZAcUcU GUDdOVER U PA OVER PA GAR OVER GAR
fSUR OVER SURfU REVERSED OVER U REVERSEDdUdU UcU2cUBcUDcUD GUNUdKUSHU2dSHESHIGdSHESHIG TIMES BADdTIMES BADeMI
eU PLUS U PLUS UiU GUNUcUDUGcUMcUM TIMES LAGABeMEeME PLUS DAeSHA3eUcUMBINcUMUMcUMUM TIMES KASKALePAcUNcUN GUNUcUR
cUR CROSSING URdSHESHIGcUR2cUR2 INVERTEDdTIMES A PLUS HAgNAeALeHAeNUNeU2eU2 PLUS ASHgBIeUDcUR4cURIcURI3cURU
cURU TIMES AeASHGABeBAReDARA3eDUNeGAeGALeGAN2 TENUeGAReGUeHAeIGIeIMeISHeKIeLAK-668eLU3eLUMeMINePAeSHEeSIG4eTU
eU PLUS GUDeUDeURUDAcURUDAcURUDA TIMES UcUSHcUSH TIMES AeKUeKUReTAK4cUSH2cUSHUMXcUSHXcUTUKIcUZ3cUZ3 TIMES KASKALcUZU
cZAcZA SQUARED TIMES KURdTENUcZA7cZAGcZAMXcZE2cZIcZI OVER ZIcZI3cZIBcZIB KABA TENUcZIGcZIZ2cZUcZU OVER ZU PLUS SARcZU5
cZU5 TIMES AeTHREE DISH TENUcZUBURcZUMaCUP ON BLACK SQUAREbWITH STRAWaCUPCAKEaCUPIDOaCURLING STONE
aCURLY BRACKET EXTENSIONbLOGICAL ANDcORbLOOPaCURRENCY EXCHANGEbSIGNaCURRY AND RICEaCURVED STEM PARAGRAPH SIGN ORNAMENT
aCUSTARDaCUSTOMSaCUT OF MEATaCYCLONEaCYLINDRICITYaCYPRIOT SYLLABLE AcEcIcJAcJOcKAcKEcKIcKOcKUcLAcLEcLIcLOcLUcMAcMEcMI
cMOcMUcNAcNEcNIcNOcNUcOcPAcPEcPIcPOcPUcRAcREcRIcROcRUcSAcSEcSIcSOcSUcTAcTEcTIcTOcTUcUcWAcWEcWIcWOcXAcXEcZAcZO
aCYPRO-MINOAN SIGN CM001dCM002dCM004dCM005dCM006dCM007dCM008dCM009dCM010dCM011dCM012dCM012BdCM013dCM015dCM017dCM019
dCM021dCM023dCM024dCM025dCM026dCM027dCM028dCM029dCM030dCM033dCM034dCM035dCM036dCM037dCM038dCM039dCM040dCM041dCM044
dCM046dCM047dCM049dCM050dCM051dCM052dCM053dCM054dCM055dCM056dCM058dCM059dCM060dCM061dCM062dCM063dCM064dCM066dCM067
dCM068dCM069dCM070dCM071dCM072dCM073dCM074dCM075dCM075BdCM076dCM078dCM079dCM080dCM081dCM082dCM083dCM084dCM085dCM086
dCM087dCM088dCM089dCM090dCM091dCM092dCM094dCM095dCM096dCM097dCM098dCM099dCM100dCM101dCM102dCM103dCM104dCM105dCM107
dCM108dCM109dCM110dCM112dCM114dCM301dCM302aCYRILLIC CAPITAL LETTER AdA WITH BREVEfDIAERESISdABKHASIAN CHE
eCHE WITH DESCENDEReDZEeHAdALEUT KAdBARRED OeO WITH DIAERESISdBASHKIR KAdBEdBIG YUSdBINOCULAR OdBLENDED YUS
dBROAD OMEGAdBYELORUSSIAN-UKRAINIAN IdCCHEdCHEdCHE WITH DESCENDERfDIAERESISfVERTICAL STROKEdCLOSED LITTLE YUS
dCROSSED OdDCHEdDEdDJEdDJERVdDOUBLE MONOCULAR OeOdDWEdDZEdDZELOdDZHEdDZWEdDZZEdDZZHEdEdE WITH DIAERESISdEFdEL
dEL WITH DESCENDERfHOOKfMIDDLE HOOKfTAILdEMdEM WITH TAILdENdEN WITH DESCENDERfHOOKfLEFT HOOKfMIDDLE HOOKfTAILdER
dER WITH TICKdESdES WITH DESCENDERdFITAdGHEdGHE WITH DESCENDERfMIDDLE HOOKfSTROKEfSTROKE AND HOOKfUPTURNdGJEdHA
dHA WITH DESCENDERfHOOKfSTROKEdHARD SIGNdHWEdIdI WITH DIAERESISfGRAVEfMACRONdIEdIE WITH BREVEfGRAVEdIOdIOTAdIOTIFIED A
eBIG YUSeCLOSED LITTLE YUSeEeLITTLE YUSeYATdIZHITSAdIZHITSA WITH DOUBLE GRAVE ACCENTdJEdKAdKA WITH DESCENDERfHOOK
fSTROKEfVERTICAL STROKEdKHAKASSIAN CHEdKJEdKOMI DEeDJEeDZJEeLJEeNJEeSJEeTJEeZJEdKOPPAdKSIdLHAdLITTLE YUSdLJE
dMONOCULAR OdMONOGRAPH UKdNEUTRAL YERdNJEdOdO WITH DIAERESISdOMEGAdOMEGA WITH TITLOdOTdPEdPE WITH DESCENDER
fMIDDLE HOOKdPSIdQAdREVERSED DZEeTSEeYUeZEdRHAdROUND OMEGAdSCHWAdSCHWA WITH DIAERESISdSEMISOFT SIGNdSHAdSHCHAdSHHA
dSHHA WITH DESCENDERdSHORT IeI WITH TAILeUdSHWEdSOFT DEeELeEMeSIGNdSTRAIGHT UeU WITH STROKEdTCHEdTEdTE WITH DESCENDER
fMIDDLE HOOKdTSEdTSHEdTSSEdTSWEdTWEdUdU WITH DIAERESISfDOUBLE ACUTEfMACRONdUKdUKRAINIAN IEdVEdWEdYAdYAEdYATdYERU
dYERU WITH BACK YERfDIAERESISdYIdYNdYUdZEdZE WITH DESCENDERfDIAERESISdZEMLYAdZHEdZHE WITH BREVEfDESCENDERfDIAERESIS
dZHWEcLIGATURE A IEdEN GHEdTE TSEbKAVYKAbLETTER MULTIOCULAR OcPALOCHKAcSMALL CAPITAL ELbPAYEROKbSMALL LETTER A
dA WITH BREVEfDIAERESISdABKHASIAN CHEeCHE WITH DESCENDEReDZEeHAdALEUT KAdBARRED OeO WITH DIAERESISdBASHKIR KAdBE
dBIG YUSdBINOCULAR OdBLENDED YUSdBROAD OMEGAdBYELORUSSIAN-UKRAINIAN IdCCHEdCHEdCHE WITH DESCENDERfDIAERESIS
fVERTICAL STROKEdCLOSED LITTLE YUSdCROSSED OdDCHEdDEdDJEdDJERVdDOUBLE MONOCULAR OeOdDWEdDZEdDZELOdDZHEdDZWEdDZZEdDZZHE
dEdE WITH DIAERESISdEFdELdEL WITH DESCENDERfHOOKfMIDDLE HOOKfTAILdEMdEM WITH TAILdENdEN WITH DESCENDERfHOOKfLEFT HOOK
fMIDDLE HOOKfTAILdERdER WITH TICKdESdES WITH DESCENDERdFITAdGHEdGHE WITH DESCENDERfMIDDLE HOOKfSTROKEfSTROKE AND HOOK
fUPTURNdGJEdHAdHA WITH DESCENDERfHOOKfSTROKEdHARD SIGNdHWEdIdI WITH DIAERESISfGRAVEfMACRONdIEdIE WITH BREVEfGRAVEdIO
dIOTAdIOTIFIED AeBIG YUSeCLOSED LITTLE YUSeEeLITTLE YUSeYATdIZHITSAdIZHITSA WITH DOUBLE GRAVE ACCENTdJEdKA
dKA WITH DESCENDERfHOOKfSTROKEfVERTICAL STROKEdKHAKASSIAN CHEdKJEdKOMI DEeDJEeDZJEeLJEeNJEeSJEeTJEeZJEdKOPPAdKSIdLHA
dLITTLE YUSdLJEdLONG-LEGGED DEdMONOCULAR OdMONOGRAPH UKdNARROW OdNEUTRAL YERdNJEdOdO WITH DIAERESISdOMEGA
dOMEGA WITH TITLOdOTdPALOCHKAdPEdPE WITH DESCENDERfMIDDLE HOOKdPSIdQAdREVERSED DZEeTSEeYUeZEdRHAdROUND OMEGA
dROUNDED VEdSCHWAdSCHWA WITH DIAERESISdSEMISOFT SIGNdSHAdSHCHAdSHHAdSHHA WITH DESCENDERdSHORT IeI WITH TAILeUdSHWE
dSOFT DEeELeEMeSIGNdSTRAIGHT UeU WITH STROKEdTALL HARD SIGNeTEeYATdTCHEdTEdTE WITH DESCENDERfMIDDLE HOOK
dTHREE-LEGGED TEdTSEdTSHEdTSSEdTSWEdTWEdUdU WITH DIAERESISfDOUBLE ACUTEfMACRONdUKdUKRAINIAN IEdUNBLENDED UKdVEdWE
dWIDE ESdYAdYAEdYATdYERUdYERU WITH BACK YERfDIAERESISdYIdYNdYUdZEdZE WITH DESCENDERfDIAERESISdZEMLYAdZHE
dZHE WITH BREVEfDESCENDERfDIAERESISdZHWEcLIGATURE A IEdEN GHEdTE TSEbTHOUSANDS SIGNaDAGGERaDAGGER KNIFE
bWITH LEFT GUARDcRIGHT GUARDaDALET SYMBOLaDANCERaDANGOaDARK SHADEbSUNGLASSESaDASH SYMBOLbWITH LEFT UPTURN
aDASHED LOW LINEbOVERLINEbTRIANGLE-HEADED RIGHTWARDS ARROWaDATA LINK ESCAPEaDC1aDC2aDC3aDC4aDCSaDEAF PERSON
aDECIDUOUS TREEaDECIMAL EXPONENT SYMBOLbSEPARATOR KEY SYMBOLaDECREASE FONT SIZE SYMBOLaDEERaDEGREE CELSIUSbFAHRENHEIT
bSIGNaDELaDELETEaDELIVERY TRUCKaDELTA EQUAL TOaDENTISTRY SYMBOL LIGHT DOWN AND HORIZONTALfHORIZONTAL WITH CIRCLE
hTRIANGLEhWAVEdUP AND HORIZONTALfHORIZONTAL WITH CIRCLEhTRIANGLEhWAVEdVERTICAL AND BOTTOM LEFTgRIGHTfTOP LEFTgRIGHT
fWAVEeWITH CIRCLEfTRIANGLEaDEPARTMENT STOREaDERELICT HOUSE BUILDINGaDESCENDING NODEaDESERET CAPITAL LETTER AYdBEEdCHEE
dDEEdEFdELdEMdENdENGdERdESdESHdETHdEWdGAYdHdJEEdKAYdLONG AeAHeEeIeOeOOdOIdOWdPEEdSHORT AeAHeEeIeOeOOdTEEdTHEEdVEEdWU
dYEEdZEEdZHEEbSMALL LETTER AYdBEEdCHEEdDEEdEFdELdEMdENdENGdERdESdESHdETHdEWdGAYdHdJEEdKAYdLONG AeAHeEeIeOeOOdOIdOWdPEE
dSHORT AeAHeEeIeOeOOdTEEdTHEEdVEEdWUdYEEdZEEdZHEEaDESERTaDESERT ISLANDaDESKTOP COMPUTERbWINDOW
aDEVANAGARI ABBREVIATION SIGNbACUTE ACCENTbCARETbDANDAbDIGIT EIGHTcFIVEcFOURcNINEcONEcSEVENcSIXcTHREEcTWOcZERO
bDOUBLE DANDAbGAP FILLERbGRAVE ACCENTbHEADSTROKEbJAIN OMbLETTER AcAAcAIcAUcAWcAYcBAcBBAcBHAcCAcCANDRA AdEdOcCHAcDAcDDA
cDDDAcDDDHAcDDHAcDHAcEcFAcGAcGGAcGHAcGHHAcGLOTTAL STOPcHAcHEAVY YAcIcIIcJAcJHAcJJAcKAcKHAcKHHAcLAcLLAcLLLAcMA
cMARWARI DDAcNAcNGAcNNAcNNNAcNYAcOcOEcOOEcPAcPHAcQAcRAcRHAcRRAcSAcSHAcSHORT AdEdOcSSAcTAcTHAcTTAcTTHAcUcUEcUUcUUEcVA
cVOCALIC LdLLdRdRRcYAcYYAcZAcZHAbOMbSIGN ANUSVARAcAVAGRAHAcCANDRABINDUcCANDRABINDU AVAGRAHAdTHREEdTWOdVIRAMA
cDOUBLE CANDRABINDU VIRAMAcHIGH SPACING DOTcINVERTED CANDRABINDUcNUKTAcPUSHPIKAcSIDDHAMcSPACING CANDRABINDUcVIRAMA
cVISARGAbSTRESS SIGN ANUDATTAdUDATTAbVOWEL SIGN AAdAIdAUdAWdAYdCANDRA EeLONG EeOdEdIdIIdOdOEdOOEdPRISHTHAMATRA E
dSHORT EeOdUdUEdUUdUUEdVOCALIC LeLLeReRRaDEVICE CONTROL FOURcONEcSTRINGcTHREEcTWOaDIAERESISaDIAMETER SIGN
aDIAMOND OPERATORbSHAPE WITH A DOT INSIDEbTARGETbWITH BOTTOM HALF BLACKcLEFT HALF BLACKcRIGHT HALF BLACK
cTOP HALF BLACKaDIE FACE-1c2c3c4c5c6aDIESEL LOCOMOTIVEaDIFFERENCE BETWEENaDIGIT EIGHTbEIGHT COMMAcFULL STOPbFIVE
bFIVE COMMAcFULL STOPbFOURbFOUR COMMAcFULL STOPbNINEbNINE COMMAcFULL STOPbONEbONE COMMAcFULL STOPbSEVENbSEVEN COMMA
cFULL STOPbSIXbSIX COMMAcFULL STOPbTHREEbTHREE COMMAcFULL STOPbTWObTWO COMMAcFULL STOPbZERObZERO COMMAcFULL STOP
aDIGRAM FOR EARTHcEARTHLY HEAVENdHUMANcGREATER YANGdYINcHEAVENLY EARTHcHUMAN EARTHcLESSER YANGdYINaDIMENSION ORIGIN
aDINGBAT CIRCLED SANS-SERIF DIGIT EIGHTfFIVEfFOURfNINEfONEfSEVENfSIXfTHREEfTWOfZEROeNUMBER TEN
bNEGATIVE CIRCLED DIGIT EIGHTeFIVEeFOUReNINEeONEeSEVENeSIXeTHREEeTWOdNUMBER TENdSANS-SERIF DIGIT EIGHTgFIVEgFOURgNINE
gONEgSEVENgSIXgTHREEgTWOgZEROfNUMBER TENaDIRECT CURRENT SYMBOL FORM TWObHITaDISABLED CAR
aDISAPPOINTED BUT RELIEVED FACEbFACEaDISCONTINUOUS UNDERLINE SYMBOLaDISGUISED FACEaDITTO MARKaDIVES AKURU DIGIT EIGHT
dFIVEdFOURdNINEdONEdSEVENdSIXdTHREEdTWOdZEROcDOUBLE DANDAcEND OF TEXT MARKcGAP FILLERcINITIAL RAcLETTER AdAAdBAdBHAdCA
dCHAdDAdDDAdDDHAdDHAdEdGAdGHAdHAdIdIIdJAdKAdKHAdLAdLLAdMAdNAdNGAdNNAdNYAdOdPAdPHAdRAdSAdSHAdSSAdTAdTHAdTTAdUdUUdVAdYA
dYYAdZAcMEDIAL RAdYAcPREFIXED NASAL SIGNcSIGN ANUSVARAdCANDRABINDUdHALANTAdNUKTAcVIRAMAcVOWEL SIGN AAeAIeEeIeIIeOeUeUU
aDIVIDESaDIVING MASKaDIVISION SIGNbSLASHbTIMESaDIVORCE SYMBOLaDIYA LAMPaDIZZY FACEbSYMBOLaDLEaDNA DOUBLE HELIX
aDO NOT LITTER SYMBOLaDOCUMENTaDOCUMENT WITH PICTUREcTEXTcTEXT AND PICTUREaDODOaDOES NOT CONTAIN AS MEMBER
eNORMAL SUBGROUPfSUBGROUP OR EQUALcDIVIDEcDIVIDE WITH REVERSED NEGATION SLASHcFORCEcPRECEDEcPRECEDE OR EQUALcPROVE
cSUCCEEDcSUCCEED OR EQUALaDOGaDOG FACEaDOGRA ABBREVIATION SIGNbLETTER AcAAcAIcAUcBAcBHAcCAcCHAcDAcDDAcDDHAcDHAcEcGA
cGHAcHAcIcIIcJAcJHAcKAcKHAcLAcMAcNAcNGAcNNAcNYAcOcPAcPHAcRAcRRAcSAcSHAcSSAcTAcTHAcTTAcTTHAcUcUUcVAcYAbSIGN ANUSVARA
cNUKTAcVIRAMAcVISARGAbVOWEL SIGN AAdAIdAUdEdIdIIdOdUdUUdVOCALIC ReRRaDOLLAR SIGNaDOLPHINaDOMINO TILE HORIZONTAL BACK
cHORIZONTAL-00-00e01e02e03e04e05e06d01-00e01e02e03e04e05e06d02-00e01e02e03e04e05e06d03-00e01e02e03e04e05e06d04-00e01
e02e03e04e05e06d05-00e01e02e03e04e05e06d06-00e01e02e03e04e05e06cVERTICAL BACKcVERTICAL-00-00e01e02e03e04e05e06d01-00
e01e02e03e04e05e06d02-00e01e02e03e04e05e06d03-00e01e02e03e04e05e06d04-00e01e02e03e04e05e06d05-00e01e02e03e04e05e06
d06-00e01e02e03e04e05e06aDONG SIGNaDOORaDOT ABOVEbMINUSbOPERATORbPLUSaDOTTED CIRCLEbCROSSbFENCEbLINE FACEbOBELOS
bRIGHT-POINTING ANGLEbSOLIDUSbSQUAREbTRANSPOSITION MARKERaDOUBLE ACUTE ACCENTbCIRCLED DIGIT EIGHTdFIVEdFOURdNINEdONE
dSEVENdSIXdTHREEdTWOcNUMBER TENbCOLON EQUALbCURLY LOOPbDAGGERbDOWN TACKbEXCLAMATION MARK
bHIGH-REVERSED-9 QUOTATION MARKbHYPHENbINTEGRALbINTERSECTIONbLEFT ARC GREATER-THAN BRACKETbLOGICAL ANDcORbLOW LINE
bLOW-9 QUOTATION MARKcREVERSED-9 QUOTATION MARKbNESTED GREATER-THANcLESS-THANdTHAN WITH UNDERBARbOBLIQUE HYPHENbPLUS
bPRECEDESbPRIMEbPRIME QUOTATION MARKbQUESTION MARKbRIGHT ARC LESS-THAN BRACKETbSOLIDUS OPERATORbSQUARE INTERSECTION
cUNIONbSTACKED COMMAbSTROKE NOT SIGNbSUBSETbSUCCEEDSbSUPERSETbSUSPENSION MARKbUNIONbUP TACKbVERTICAL BAR
cBAR DOUBLE LEFT TURNSTILEeRIGHT TURNSTILEdLEFT TURNSTILEcLINEbWAVY OVERLINEaDOUBLE-ENDED MULTIMAP
bLINE EQUAL TO OR GREATER-THANfLESS-THANcSLANTED EQUAL TO OR GREATER-THANgLESS-THANdGREATER-THAN OR EQUAL TO
dLESS-THAN OR EQUAL TObSTRUCK CAPITAL CdGAMMAdHdNdPdPIdQdRdZcITALIC CAPITAL DdSMALL DeEeIeJcN-ARY SUMMATION
cSMALL GAMMAdPIaDOUBLED FEMALE SIGNbMALE SIGNbSYMBOLaDOUGHNUTaDOVE OF PEACEaDOWN ARROWHEADbFISH TAIL
bRIGHT DIAGONAL ELLIPSISbTACKbTACK WITH CIRCLE BELOWaDOWN-POINTING RED TRIANGLEcSMALL RED TRIANGLE
cTRIANGLE WITH LEFT HALF BLACKeRIGHT HALF BLACKaDOWNWARD FACING HOOKcHOOK WITH DOTcNOTCHED HOOKdHOOK WITH DOT
aDOWNWARDS ANCORAbARROWbARROW AND RIGHT ONE EIGHTH BLOCKcFROM BARcLEFTWARDS OF UPWARDS ARROWcTO BAR
cWITH CORNER LEFTWARDSdDOUBLE STROKEdEQUILATERAL ARROWHEADdHORIZONTAL STROKEdLARGE TRIANGLE ARROWHEAD
dMEDIUM TRIANGLE ARROWHEADdNOTCHED TAILdSMALL EQUILATERAL ARROWHEADeTRIANGLE ARROWHEADdTIP LEFTWARDSeRIGHTWARDS
bBLACK ARROWcCIRCLED WHITE ARROWbCOMPRESSED ARROWbDASHED ARROWbDOUBLE ARROWbFINGER-POST ARROW
bHARPOON WITH BARB LEFT BESIDE DOWNWARDS HARPOON WITH BARB RIGHTgUPWARDS HARPOON WITH BARB RIGHTfFROM BARfTO BAR
eLEFTWARDSeRIGHT FROM BARfTO BAReRIGHTWARDSbHEAVY ARROWcCOMPRESSED ARROWbPAIRED ARROWSbQUADRUPLE ARROWbROCKET
bSANS-SERIF ARROWbSQUARED ARROWbTRIANGLE ARROWHEADbTRIANGLE-HEADED ARROW
dARROW LEFTWARDS OF UPWARDS TRIANGLE-HEADED ARROWeTO BAReWITH BOLD SHAFTfDOUBLE HORIZONTAL STROKEfHEAVY SHAFT
fLONG TIP LEFTWARDShRIGHTWARDSfMEDIUM SHAFTfNARROW SHAFTfVERY HEAVY SHAFTdDASHED ARROWdPAIRED ARROWSdZIGZAG ARROW
bTRIPLE ARROWbTWO HEADED ARROWbTWO-HEADED ARROW WITH TRIANGLE ARROWHEADSbWHITE ARROWcARROW WITHIN TRIANGLE ARROWHEAD
bZIGZAG ARROWaDRACHMA SIGNaDRAFTING POINT RIGHTWARDS ARROWaDRAGONaDRAGON FACEaDRESSaDRIVE SLOW SIGNaDROMEDARY CAMEL
aDROOLING FACEaDROP OF BLOODaDROPLETaDRUM WITH DRUMSTICKSaDUCKaDUMPLINGaDUPLOYAN AFFIX ATTACHED E HOOKdI HOOK
dLEFT-TO-RIGHT SECANTdSECANTdTAILdTANGENTdTANGENT HOOKcHIGH ACUTEdCIRCLEdDOTdGRAVEdLINEdLONG GRAVEdTIGHT ACUTE
dVERTICALdVERTICAL SECANTdWAVEcLEFT HORIZONTAL SECANTcLOW ACUTEdARROWdCIRCLEdDOTdGRAVEdLINEdLONG GRAVEdTIGHT ACUTE
dVERTICALdVERTICAL SECANTdWAVEcMID HORIZONTAL SECANTdVERTICAL SECANTcRIGHT HORIZONTAL SECANTbDOUBLE MARKbLETTER AcAOU
cBcDcD ScDHcEcEEcEUcFcF NcGcG R ScHcHLcIcIEcJcJ MdM SdNdN SdSdS WITH DOTdWITH DOTeDOTS INSIDE AND ABOVEcKcK MdR ScKKcL
cLHcLONG IdUcMcM NdN SdSdWITH DOTcNcN MdM SdSdWITH DOTcNASAL AdIdOdUcOcOAcOOHcOUcOWcPcP NcPERNIN AMdANcRcR ScRH
cROMANIAN IdUcScS JdJ SdKdK RdMdNdPdP RdSdTdT RdWITH DOTeDOT BELOWcSHORT IcSLOAN ANdDHdEEdEHdENdJdONdOWdUcTcT R SdScTH
cUcU NcUHcUIcVcVOCALIC McWcW RcWAcWEIcWHcWIcWOcWOWcXcXWcYEbPUNCTUATION CHINOOK FULL STOPbSIGN O WITH CROSS
bTHICK LETTER SELECTORaDVDaE-MAIL SYMBOLaEAGLEaEARaEAR OF MAIZEcRICEbWITH HEARING AIDaEARTHaEARTH GLOBE AMERICAS
cASIA-AUSTRALIAcEUROPE-AFRICAbGROUNDaEAST SYRIAC CROSSaEDITORIAL CORONISaEGGaEGYPTIAN HIEROGLYPH A001cA002cA003cA004
cA005cA005AcA006cA006AcA006BcA007cA008cA009cA010cA011cA012cA013cA014cA014AcA015cA016cA017cA017AcA018cA019cA020cA021
cA022cA023cA024cA025cA026cA027cA028cA029cA030cA031cA032cA032AcA033cA034cA035cA036cA037cA038cA039cA040cA040AcA041cA042
cA042AcA043cA043AcA044cA045cA045AcA046cA047cA048cA049cA050cA051cA052cA053cA054cA055cA056cA057cA058cA059cA060cA061cA062
cA063cA064cA065cA066cA067cA068cA069cA070cAA001cAA002cAA003cAA004cAA005cAA006cAA007cAA007AcAA007BcAA008cAA009cAA010
cAA011cAA012cAA013cAA014cAA015cAA016cAA017cAA018cAA019cAA020cAA021cAA022cAA023cAA024cAA025cAA026cAA027cAA028cAA029
cAA030cAA031cAA032cB001cB002cB003cB004cB005cB005AcB006cB007cB008cB009cBEGIN SEGMENTcC001cC002cC002AcC002BcC002CcC003
cC004cC005cC006cC007cC008cC009cC010cC010AcC011cC012cC013cC014cC015cC016cC017cC018cC019cC020cC021cC022cC023cC024cD001
cD002cD003cD004cD005cD006cD007cD008cD008AcD009cD010cD011cD012cD013cD014cD015cD016cD017cD018cD019cD020cD021cD022cD023
cD024cD025cD026cD027cD027AcD028cD029cD030cD031cD031AcD032cD033cD034cD034AcD035cD036cD037cD038cD039cD040cD041cD042cD043
cD044cD045cD046cD046AcD047cD048cD048AcD049cD050cD050AcD050BcD050CcD050DcD050EcD050FcD050GcD050HcD050IcD051cD052cD052A
cD053cD054cD054AcD055cD056cD057cD058cD059cD060cD061cD062cD063cD064cD065cD066cD067cD067AcD067BcD067CcD067DcD067EcD067F
cD067GcD067HcE001cE002cE003cE004cE005cE006cE007cE008cE008AcE009cE009AcE010cE011cE012cE013cE014cE015cE016cE016AcE017
cE017AcE018cE019cE020cE020AcE021cE022cE023cE024cE025cE026cE027cE028cE028AcE029cE030cE031cE032cE033cE034cE034AcE036
cE037cE038cEND SEGMENTcF001cF001AcF002cF003cF004cF005cF006cF007cF008cF009cF010cF011cF012cF013cF013AcF014cF015cF016
cF017cF018cF019cF020cF021cF021AcF022cF023cF024cF025cF026cF027cF028cF029cF030cF031cF031AcF032cF033cF034cF035cF036cF037
cF037AcF038cF038AcF039cF040cF041cF042cF043cF044cF045cF045AcF046cF046AcF047cF047AcF048cF049cF050cF051cF051AcF051BcF051C
cF052cF053cG001cG002cG003cG004cG005cG006cG006AcG007cG007AcG007BcG008cG009cG010cG011cG011AcG012cG013cG014cG015cG016
cG017cG018cG019cG020cG020AcG021cG022cG023cG024cG025cG026cG026AcG027cG028cG029cG030cG031cG032cG033cG034cG035cG036cG036A
cG037cG037AcG038cG039cG040cG041cG042cG043cG043AcG044cG045cG045AcG046cG047cG048cG049cG050cG051cG052cG053cG054cH001cH002
cH003cH004cH005cH006cH006AcH007cH008cHORIZONTAL JOINERcI001cI002cI003cI004cI005cI005AcI006cI007cI008cI009cI009AcI010
cI010AcI011cI011AcI012cI013cI014cI015cINSERT AT BOTTOM ENDfSTARTeTOP ENDfSTARTcK001cK002cK003cK004cK005cK006cK007cK008
cL001cL002cL002AcL003cL004cL005cL006cL006AcL007cL008cM001cM001AcM001BcM002cM003cM003AcM004cM005cM006cM007cM008cM009
cM010cM010AcM011cM012cM012AcM012BcM012CcM012DcM012EcM012FcM012GcM012HcM013cM014cM015cM015AcM016cM016AcM017cM017AcM018
cM019cM020cM021cM022cM022AcM023cM024cM024AcM025cM026cM027cM028cM028AcM029cM030cM031cM031AcM032cM033cM033AcM033BcM034
cM035cM036cM037cM038cM039cM040cM040AcM041cM042cM043cM044cN001cN002cN003cN004cN005cN006cN007cN008cN009cN010cN011cN012
cN013cN014cN015cN016cN017cN018cN018AcN018BcN019cN020cN021cN022cN023cN024cN025cN025AcN026cN027cN028cN029cN030cN031cN032
cN033cN033AcN034cN034AcN035cN035AcN036cN037cN037AcN038cN039cN040cN041cN042cNL001cNL002cNL003cNL004cNL005cNL005AcNL006
cNL007cNL008cNL009cNL010cNL011cNL012cNL013cNL014cNL015cNL016cNL017cNL017AcNL018cNL019cNL020cNU001cNU002cNU003cNU004
cNU005cNU006cNU007cNU008cNU009cNU010cNU010AcNU011cNU011AcNU012cNU013cNU014cNU015cNU016cNU017cNU018cNU018AcNU019cNU020
cNU021cNU022cNU022AcO001cO001AcO002cO003cO004cO005cO005AcO006cO006AcO006BcO006CcO006DcO006EcO006FcO007cO008cO009cO010
cO010AcO010BcO010CcO011cO012cO013cO014cO015cO016cO017cO018cO019cO019AcO020cO020AcO021cO022cO023cO024cO024AcO025cO025A
cO026cO027cO028cO029cO029AcO030cO030AcO031cO032cO033cO033AcO034cO035cO036cO036AcO036BcO036CcO036DcO037cO038cO039cO040
cO041cO042cO043cO044cO045cO046cO047cO048cO049cO050cO050AcO050BcO051cOVERLAY MIDDLEcP001cP001AcP002cP003cP003AcP004
cP005cP006cP007cP008cP009cP010cP011cQ001cQ002cQ003cQ004cQ005cQ006cQ007cR001cR002cR002AcR003cR003AcR003BcR004cR005cR006
cR007cR008cR009cR010cR010AcR011cR012cR013cR014cR015cR016cR016AcR017cR018cR019cR020cR021cR022cR023cR024cR025cR026cR027
cR028cR029cS001cS002cS002AcS003cS004cS005cS006cS006AcS007cS008cS009cS010cS011cS012cS013cS014cS014AcS014BcS015cS016
cS017cS017AcS018cS019cS020cS021cS022cS023cS024cS025cS026cS026AcS026BcS027cS028cS029cS030cS031cS032cS033cS034cS035
cS035AcS036cS037cS038cS039cS040cS041cS042cS043cS044cS045cS046cT001cT002cT003cT003AcT004cT005cT006cT007cT007AcT008
cT008AcT009cT009AcT010cT011cT011AcT012cT013cT014cT015cT016cT016AcT017cT018cT019cT020cT021cT022cT023cT024cT025cT026
cT027cT028cT029cT030cT031cT032cT032AcT033cT033AcT034cT035cT036cU001cU002cU003cU004cU005cU006cU006AcU006BcU007cU008
cU009cU010cU011cU012cU013cU014cU015cU016cU017cU018cU019cU020cU021cU022cU023cU023AcU024cU025cU026cU027cU028cU029cU029A
cU030cU031cU032cU032AcU033cU034cU035cU036cU037cU038cU039cU040cU041cU042cV001cV001AcV001BcV001CcV001DcV001EcV001FcV001G
cV001HcV001IcV002cV002AcV003cV004cV005cV006cV007cV007AcV007BcV008cV009cV010cV011cV011AcV011BcV011CcV012cV012AcV012B
cV013cV014cV015cV016cV017cV018cV019cV020cV020AcV020BcV020CcV020DcV020EcV020FcV020GcV020HcV020IcV020JcV020KcV020LcV021
cV022cV023cV023AcV024cV025cV026cV027cV028cV028AcV029cV029AcV030cV030AcV031cV031AcV032cV033cV033AcV034cV035cV036cV037
cV037AcV038cV039cV040cV040AcVERTICAL JOINERcW001cW002cW003cW003AcW004cW005cW006cW007cW008cW009cW009AcW010cW010AcW011
cW012cW013cW014cW014AcW015cW016cW017cW017AcW018cW018AcW019cW020cW021cW022cW023cW024cW024AcW025cX001cX002cX003cX004
cX004AcX004BcX005cX006cX006AcX007cX008cX008AcY001cY001AcY002cY003cY004cY005cY006cY007cY008cZ001cZ002cZ002AcZ002BcZ002C
cZ002DcZ003cZ003AcZ003BcZ004cZ004AcZ005cZ005AcZ006cZ007cZ008cZ009cZ010cZ011cZ012cZ013cZ014cZ015cZ015AcZ015BcZ015C
cZ015DcZ015EcZ015FcZ015GcZ015HcZ015IcZ016cZ016AcZ016BcZ016CcZ016DcZ016EcZ016FcZ016GcZ016H
aEIGHT PETALLED OUTLINED BLACK FLORETTEbPOINTED BLACK STARcPINWHEEL STARcRECTILINEAR BLACK STARbSPOKED ASTERISK
bTEARDROP-SPOKED PROPELLER ASTERISKaEIGHTH NOTEaEJECT SYMBOLaELBASAN LETTER AcBEcCEcCHEcDEcDHEcEcEIcFEcGEcGHAMMAcGHE
cGJEcHEcIcJEcKEcKHEcLEcLLEcMEcNAcNDEcNEcNJEcOcPEcQEcREcRREcSEcSHEcTEcTHEcUcVEcXEcYcZEcZHEaELECTRIC ARROWbLIGHT BULB
bPLUGbTORCHaELECTRICAL INTERSECTIONaELEMENT OFbOF OPENING DOWNWARDSdUPWARDScWITH DOT ABOVEdLONG HORIZONTAL STROKE
dOVERBARdTWO HORIZONTAL STROKESdUNDERBARdVERTICAL BAR AT END OF HORIZONTAL STROKEaELEPHANTaELEVATORaELF
aELYMAIC LETTER ALEPHcAYINcBETHcDALETHcGIMELcHEcHETHcKAPHcLAMEDHcMEMcNUNcPEcQOPHcRESHcSADHEcSAMEKHcSHINcTAWcTETHcWAW
cYODHcZAYINbLIGATURE ZAYIN-YODHaEM DASHbQUADbSPACEaEMOJI COMPONENT BALDcCURLY HAIRcRED HAIRcWHITE HAIR
bMODIFIER FITZPATRICK TYPE-1-2e3e4e5e6aEMPHASIS SYMBOLaEMPTY DOCUMENTbNESTbNOTEbNOTE PADcPAGEbPAGEbPAGESbSET
bSET WITH LEFT ARROW ABOVEdOVERBARdRIGHT ARROW ABOVEdSMALL CIRCLE ABOVEaEN DASHbQUADbSPACEaEND OF GUARDED AREAcLINE
cMEDIUMcPROOFcPROTECTED AREAcSELECTED AREAcTEXTcTRANSMISSIONcTRANSMISSION BLOCKbWITH LEFTWARDS ARROW ABOVEaENQaENQUIRY
aENTER SYMBOLaENVELOPEaENVELOPE WITH DOWNWARDS ARROW ABOVEcLIGHTNINGaEOLaEOMaEOTaEPAaEQUAL AND PARALLEL TO
bTO BY DEFINITIONcOR GREATER-THANdLESS-THANdPRECEDESdSUCCEEDSaEQUALS COLONbSIGNbSIGN ABOVE LEFTWARDS ARROWdPLUS SIGN
dRIGHTWARDS ARROWdTILDE OPERATORcAND SLANTED PARALLELePARALLEL WITH TILDE ABOVEcWITH BUMPY ABOVEdDOT BELOW
dINFINITY BELOWdTWO DOTS ABOVE AND TWO DOTS BELOWbWITH ASTERISKaEQUIANGULAR TOaEQUIVALENT TObWITH FOUR DOTS ABOVE
aERASE TO THE LEFTdRIGHTaERIS FORM ONEcTWOaERROR-BARRED BLACK CIRCLEdDIAMONDdSQUAREcWHITE CIRCLEdDIAMONDdSQUAREaESA
aESCaESCAPEaESTIMATED SYMBOLaESTIMATESaETBaETHIOPIC COLONbCOMBINING GEMINATION AND VOWEL LENGTH MARKdMARK
cVOWEL LENGTH MARKbCOMMAbDIGIT EIGHTcFIVEcFOURcNINEcONEcSEVENcSIXcTHREEcTWObFULL STOPbNUMBER EIGHTYcFIFTYcFORTY
cHUNDREDcNINETYcSEVENTYcSIXTYcTENcTEN THOUSANDcTHIRTYcTWENTYbPARAGRAPH SEPARATORbPREFACE COLONbQUESTION MARK
bSECTION MARKbSEMICOLONbSYLLABLE BAcBAAcBBAcBBAAcBBEcBBEEcBBIcBBOcBBUcBEcBEEcBIcBOcBOAcBUcBWAcBWEcBWEEcBWIcCAcCAAcCCA
cCCAAcCCEcCCEEcCCHAcCCHAAcCCHEcCCHEEcCCHHAcCCHHAAcCCHHEcCCHHEEcCCHHIcCCHHOcCCHHUcCCHIcCCHOcCCHUcCCIcCCOcCCUcCEcCEEcCHA
cCHAAcCHEcCHEEcCHIcCHOcCHOAcCHUcCHWAcCIcCOcCOAcCUcCWAcDAcDAAcDDAcDDAAcDDEcDDEEcDDHAAcDDHEcDDHEEcDDHIcDDHOcDDHUcDDIcDDO
cDDOAcDDUcDDWAcDEcDEEcDIcDOcDOAcDUcDWAcDZAAcDZEcDZEEcDZIcDZOcDZUcFAcFAAcFEcFEEcFIcFOcFUcFWAcFWEcFWEEcFWIcFYAcGAcGAAcGE
cGEEcGGAcGGAAcGGEcGGEEcGGIcGGOcGGUcGGWAcGGWAAcGGWEcGGWEEcGGWIcGIcGLOTTAL AdAAdEdEEdIdOdOAdUdWAcGOcGOAcGUcGURAGE BWEE
dBWIdFWEEdFWIdGWEdGWEEdGWIdHHWAdKWEdKWEEdKWIdMWEEdMWIdPWEEdPWIdQWEdQWEEdQWIcGWAcGWAAcGWEcGWEEcGWIcGYAcGYAAcGYEcGYEE
cGYIcGYOcGYUcHAcHAAcHEcHEEcHHAcHHAAcHHEcHHEEcHHIcHHOcHHUcHHWAcHHWEcHHWEEcHHWIcHHYAcHHYAAcHHYEcHHYEEcHHYIcHHYOcHHYUcHI
cHOcHOAcHUcJAcJAAcJEcJEEcJIcJOcJOAcJUcJWAcKAcKAAcKEcKEEcKIcKOcKOAcKUcKWAcKWAAcKWEcKWEEcKWIcKXAcKXAAcKXEcKXEEcKXIcKXO
cKXUcKXWAcKXWAAcKXWEcKXWEEcKXWIcKYAcKYAAcKYEcKYEEcKYIcKYOcKYUcLAcLAAcLEcLEEcLIcLOcLOAcLUcLWAcMAcMAAcMEcMEEcMIcMOcMOA
cMUcMWAcMWEcMWEEcMWIcMYAcNAcNAAcNEcNEEcNIcNOcNOAcNUcNWAcNYAcNYAAcNYEcNYEEcNYIcNYOcNYOAcNYUcNYWAcPAcPAAcPEcPEEcPHAcPHAA
cPHARYNGEAL AdAAdEdEEdIdOdUcPHEcPHEEcPHIcPHOcPHOAcPHUcPHWAcPIcPOcPOAcPUcPWAcPWEcPWEEcPWIcQAcQAAcQEcQEEcQHAcQHAAcQHE
cQHEEcQHIcQHOcQHUcQHWAcQHWAAcQHWEcQHWEEcQHWIcQIcQOcQOAcQUcQWAcQWAAcQWEcQWEEcQWIcQYAcQYAAcQYEcQYEEcQYIcQYOcQYUcRAcRAA
cREcREEcRIcROcROAcRUcRWAcRYAcSAcSAAcSEcSEBATBEIT BWAdFWAdMWAdPWAcSEEcSHAcSHAAcSHEcSHEEcSHIcSHOcSHOAcSHUcSHWAcSIcSOcSOA
cSSAcSSAAcSSEcSSEEcSSIcSSOcSSUcSUcSWAcSZAcSZAAcSZEcSZEEcSZIcSZOcSZUcSZWAcTAcTAAcTEcTEEcTHAcTHAAcTHEcTHEEcTHIcTHOcTHOA
cTHUcTHWAcTIcTOcTOAcTSAcTSAAcTSEcTSEEcTSIcTSOcTSUcTSWAcTTHAAcTTHEcTTHEEcTTHIcTTHOcTTHUcTUcTWAcTZAcTZAAcTZEcTZEEcTZI
cTZOcTZOAcTZUcVAcVAAcVEcVEEcVIcVOcVUcVWAcWAcWAAcWEcWEEcWIcWOcWOAcWUcXAcXAAcXEcXEEcXIcXOcXOAcXUcXWAcXWAAcXWEcXWEEcXWI
cXYAcXYAAcXYEcXYEEcXYIcXYOcXYUcYAcYAAcYEcYEEcYIcYOcYOAcYUcZAcZAAcZEcZEEcZHAcZHAAcZHEcZHEEcZHIcZHOcZHUcZHWAcZIcZOcZOA
cZUcZWAcZZAcZZAAcZZEcZZEEcZZIcZZOcZZUbTONAL MARK CHIRETdDERETdDERET-HIDETdDIFATdHIDETdKENATdKURTdRIKRIKdSHORT RIKRIK
dYIZETbWORDSPACEaETXaEULER CONSTANTaEURO SIGNaEURO-CURRENCY SIGNaEUROPEAN CASTLEbPOST OFFICEaEVERGREEN TREEaEXCESS
aEXCLAMATION MARKbQUESTION MARKaEXPRESSIONLESS FACEaEXTENDED ARABIC-INDIC DIGIT EIGHTeFIVEeFOUReNINEeONEeSEVENeSIX
eTHREEeTWOeZEROaEXTRATERRESTRIAL ALIENaEXTREMELY HEAVY FIVE SPOKED ASTERISKcGREEK CROSScSALTIREcSIX SPOKED ASTERISK
cWHITE CIRCLEdSQUAREaEYEaEYEGLASSESaEYESaFACE HOLDING BACK TEARSbMASSAGEbPALMbSAVOURING DELICIOUS FOOD
bSCREAMING IN FEARbTHROWING A KISSbWITH COLD SWEATcCOWBOY HATcDIAGONAL MOUTHcFINGER COVERING CLOSED LIPScHEAD-BANDAGE
cLOOK OF TRIUMPHcMEDICAL MASKcMONOCLEcNO GOOD GESTUREcOK GESTUREcONE EYEBROW RAISEDcOPEN EYES AND HAND OVER MOUTH
dMOUTHdMOUTH AND COLD SWEATeVOMITINGcPARTY HORN AND PARTY HATcPEEKING EYEcPLEADING EYEScROLLING EYEScSTUCK-OUT TONGUE
eTONGUE AND TIGHTLY-CLOSED EYESgWINKING EYEcTEARS OF JOYcTHERMOMETERcUNEVEN EYES AND WAVY MOUTHbWITHOUT MOUTH
aFACSIMILE SIGNaFACTORYaFAIRYaFALAFELaFALLEN LEAFaFALLING DIAGONAL CROSSING NORTH EAST ARROWdRISING DIAGONAL
cIN WHITE CIRCLE IN BLACK SQUAREaFAMILYaFARSI SYMBOLaFATHER CHRISTMASaFAX ICONbMACHINEaFEARFUL FACEaFEATHER
aFEMALE SIGNaFEMININE ORDINAL INDICATORaFENCERaFERRIS WHEELaFERRYaFFaFIELD HOCKEY STICK AND BALLaFIGURE DASHbSPACE
aFILE CABINETbFOLDERbSEPARATORaFILM FRAMESbPROJECTORaFINITE PART INTEGRALaFIREaFIRE ENGINEbEXTINGUISHERaFIRECRACKER
aFIREWORK SPARKLERaFIREWORKSaFIRST PLACE MEDALbQUARTER MOONcMOON SYMBOLdWITH FACEbSTRONG ISOLATEaFISH
aFISH CAKE WITH SWIRL DESIGNaFISHEYEaFISHING POLE AND FISHaFISTED HAND SIGNaFIVE DOT MARKcPUNCTUATIONaFLAG IN HOLE
aFLAMINGOaFLAT SHOEaFLATBREADaFLATNESSaFLEUR-DE-LISaFLEXED BICEPSaFLOPPY DISKaFLORAL HEARTaFLOWERaFLOWER PLAYING CARDS
bPUNCTUATION MARKaFLUSHED FACEaFLYaFLYING DISCbENVELOPEbSAUCERaFOGaFOGGYaFOLDERaFONDUEaFOOTaFOOTPRINTSaFOR ALLaFORCES
aFORK AND KNIFEcKNIFE WITH PLATEaFORKED PARAGRAPHOSaFORKINGaFORM FEEDaFORTUNE COOKIEaFOUNTAIN
aFOUR BALLOON-SPOKED ASTERISKbCLUB-SPOKED ASTERISKbCORNER ARROWS CIRCLING ANTICLOCKWISEbDOT MARKcPUNCTUATION
bLEAF CLOVERbPOINTED BLACK STARbTEARDROP-SPOKED ASTERISKaFOUR-PER-EM SPACEaFOURTH ROOTaFOX FACEaFRACTION NUMERATOR ONE
bSLASHaFRAME WITH AN XcPICTUREcTILESaFREEZING FACEaFRENCH FRANC SIGNbFRIESaFRIED SHRIMPaFROG FACE
aFRONT-FACING BABY CHICKbTILTED SHADOWED WHITE RIGHTWARDS ARROWaFROWNaFROWNING FACE WITH OPEN MOUTHaFSaFSIaFUEL PUMP
aFULL BLOCKbMOON SYMBOLcWITH FACEbOUTER JOINbSTOPaFULLWIDTH AMPERSANDbAPOSTROPHEbASTERISKbBROKEN BARbCENT SIGN
bCIRCUMFLEX ACCENTbCOLONbCOMMAbCOMMERCIAL ATbDIGIT EIGHTcFIVEcFOURcNINEcONEcSEVENcSIXcTHREEcTWOcZERObDOLLAR SIGN
bEQUALS SIGNbEXCLAMATION MARKbFULL STOPbGRAVE ACCENTbGREATER-THAN SIGNbHYPHEN-MINUSbLATIN CAPITAL LETTER AeBeCeDeEeFeG
eHeIeJeKeLeMeNeOePeQeReSeTeUeVeWeXeYeZcSMALL LETTER AeBeCeDeEeFeGeHeIeJeKeLeMeNeOePeQeReSeTeUeVeWeXeYeZ
bLEFT CURLY BRACKETcPARENTHESIScSQUARE BRACKETcWHITE PARENTHESISbLESS-THAN SIGNbLOW LINEbMACRONbNOT SIGNbNUMBER SIGN
bPERCENT SIGNbPLUS SIGNbPOUND SIGNbQUESTION MARKbQUOTATION MARKbREVERSE SOLIDUSbRIGHT CURLY BRACKETcPARENTHESIS
cSQUARE BRACKETcWHITE PARENTHESISbSEMICOLONbSOLIDUSbTILDEbVERTICAL LINEbWON SIGNbYEN SIGNaFUNCTION APPLICATION
aFUNERAL URNaFUSEaFVS1aFVS2aFVS3aFVS4aGAME DIEaGARLICaGEARaGEAR WITH HANDLESbWITHOUT HUBaGEM STONEaGEMINIaGENIE
aGEOMETRIC PROPORTIONaGEOMETRICALLY EQUAL TObEQUIVALENT TOaGEORGIAN CAPITAL LETTER AENdANdBANdCANdCHARdCHINdCILdDONdEN
dGANdGHANdHAEdHARdHEdHIEdHOEdINdJHANdJILdKANdKHARdLASdMANdNARdONdPARdPHARdQARdRAEdSANdSHINdTANdTARdUNdVINdWEdXANdYN
dZENdZHARbLETTER AENcAINcANcBANcCANcCHARcCHINcCILcDONcELIFIcENcFIcGANcGHANcHAEcHARcHARD SIGNcHEcHIEcHOEcINcJHANcJIL
cKANcKHARcLABIAL SIGNcLAScMANcNARcONcPARcPHARcQARcRAEcSANcSHINcTANcTARcTURNED GANcUNcVINcWEcXANcYNcZENcZHAR
bMTAVRULI CAPITAL LETTER AENeAINeANeBANeCANeCHAReCHINeCILeDONeELIFIeENeFIeGANeGHANeHAEeHAReHARD SIGNeHEeHIEeHOEeIN
eJHANeJILeKANeKHAReLABIAL SIGNeLASeMANeNAReONePARePHAReQAReRAEeSANeSHINeTANeTAReTURNED GANeUNeVINeWEeXANeYNeZENeZHAR
bPARAGRAPH SEPARATORbSMALL LETTER AENdANdBANdCANdCHARdCHINdCILdDONdENdGANdGHANdHAEdHARdHEdHIEdHOEdINdJHANdJILdKANdKHAR
dLASdMANdNARdONdPARdPHARdQARdRAEdSANdSHINdTANdTARdUNdVINdWEdXANdYNdZENdZHARaGERMAN PENNY SIGNaGETA MARKaGHOST
aGIMEL SYMBOLaGIRAFFE FACEaGIRLaGIRLS SYMBOLaGLAGOLITIC CAPITAL LETTER AZUdBIG YUSdBUKYdCAUDATE CHRIVIdCHRIVIdDJERVI
dDOBROdDZELOdFITAdFRITUdGLAGOLIdHERUdIdINITIAL IZHEdIOTATED BIG YUSeSMALL YUSdIZHEdIZHITSAdKAKOdLATINATE MYSLITE
dLJUDIJEdMYSLITEdNASHIdONUdOTUdPEdPOKOJIdRITSIdSHAdSHTAdSHTAPICdSLOVOdSMALL YUSeYUS WITH TAILdSPIDERY HAdTROKUTASTI A
dTSIdTVRIDOdUKUdVEDEdYATIdYERIdYERUdYESTUdYOdYUdZEMLJAdZHIVETEbSMALL LETTER AZUdBIG YUSdBUKYdCAUDATE CHRIVIdCHRIVI
dDJERVIdDOBROdDZELOdFITAdFRITUdGLAGOLIdHERUdIdINITIAL IZHEdIOTATED BIG YUSeSMALL YUSdIZHEdIZHITSAdKAKO
dLATINATE MYSLITEdLJUDIJEdMYSLITEdNASHIdONUdOTUdPEdPOKOJIdRITSIdSHAdSHTAdSHTAPICdSLOVOdSMALL YUSeYUS WITH TAIL
dSPIDERY HAdTROKUTASTI AdTSIdTVRIDOdUKUdVEDEdYATIdYERIdYERUdYESTUdYOdYUdZEMLJAdZHIVETEaGLASS OF MILKaGLEICH STARK
aGLOBE WITH MERIDIANSaGLOVESaGLOWING STARaGOAL NETaGOATaGOGGLESaGOLFERaGORILLAaGOTHIC LETTER AHSAcAIHVUScBAIRKANcDAGS
cEIScFAIHUcGIBAcHAGLcHWAIRcIGGWScIUJAcJERcKUSMAcLAGUScMANNAcNAUTHScNINE HUNDREDcNINETYcOTHALcPAIRTHRAcQAIRTHRAcRAIDA
cSAUILcTEIWScTHIUTHcURUScWINJAaGRADUATION CAPaGRANTHA AU LENGTH MARKbLETTER AcAAcAIcAUcBAcBHAcCAcCHAcDAcDDAcDDHAcDHA
cEEcGAcGHAcHAcIcIIcJAcJHAcKAcKHAcLAcLLAcMAcNAcNGAcNNAcNYAcOOcPAcPHAcRAcSAcSHAcSSAcTAcTHAcTTAcTTHAcUcUUcVA
cVEDIC ANUSVARAdDOUBLE ANUSVARAcVOCALIC LdLLdRdRRcYAbOMbSIGN ANUSVARAcAVAGRAHAcCANDRABINDUcCOMBINING ANUSVARA ABOVE
cNUKTAcPLUTAcVIRAMAcVISARGAbVOWEL SIGN AAdAIdAUdEEdIdIIdOOdUdUUdVOCALIC LeLLeReRRaGRAPESaGRAVE ACCENT
aGREATER-THAN ABOVE DOUBLE-LINE EQUAL ABOVE LESS-THANdLESS-THAN ABOVE DOUBLE-LINE EQUALdRIGHTWARDS ARROW
dSIMILAR ABOVE LESS-THANeOR EQUALdSLANTED EQUAL ABOVE LESS-THAN ABOVE SLANTED EQUALcAND NOT APPROXIMATE
dSINGLE-LINE NOT EQUAL TOcBESIDE LESS-THANcBUT NOT EQUAL TOeEQUIVALENT TOcCLOSED BY CURVEeCURVE ABOVE SLANTED EQUAL
cEQUAL TO OR LESS-THANcOR APPROXIMATEdEQUAL TOdEQUIVALENT TOdLESS-THANdSLANTED EQUAL TOfTO WITH DOT ABOVEiABOVE LEFT
iINSIDEcOVER EQUAL TOcOVERLAPPING LESS-THANcSIGNcWITH CIRCLE INSIDEdDOTdQUESTION MARK ABOVE
aGREEK ACROPHONIC ATTIC FIFTYdFIFTY STATERSeTALENTSeTHOUSANDeTHOUSAND STATERSdFIVEdFIVE HUNDREDeHUNDRED STATERS
fTALENTSeSTATERSeTALENTSeTHOUSANDeTHOUSAND TALENTSdONE DRACHMAeHALFeHUNDRED STATERSfTALENTSeQUARTEReTHOUSAND STATERS
fTALENTSdTEN MNASeSTATERSeTALENTSeTHOUSAND STATERScCARYSTIAN FIVE HUNDREDcCYRENAIC TWO DRACHMAScDELPHIC FIVE MNAS
cEPIDAUREAN FIVE HUNDREDdTWOdTWO DRACHMAScHERAEUM ONE PLETHRONcHERMIONIAN FIFTYdONEdTENcMESSENIAN TEN
cNAXIAN FIVE HUNDREDcSTRATIAN FIFTY MNAScTHESPIAN FIFTYdFIVE HUNDREDeTHOUSANDdONEdONE HUNDREDeTHOUSANDdTENdTHIRTY
dTHREE HUNDREDdTWOcTROEZENIAN FIFTYdFIFTY ALTERNATE FORMdFIVEdFIVE HUNDREDdTENdTEN ALTERNATE FORMbANO TELEIA
bAROURA SIGNbARTABE SIGNbBETA SYMBOLbCAPITAL DOTTED LUNATE SIGMA SYMBOLcKAI SYMBOLcLETTER ALPHAdALPHA WITH DASIA
fDASIA AND OXIAhOXIA AND PROSGEGRAMMENIhPERISPOMENIhPERISPOMENI AND PROSGEGRAMMENIhPROSGEGRAMMENIhVARIA
hVARIA AND PROSGEGRAMMENIfMACRONfOXIAfPROSGEGRAMMENIfPSILIfPSILI AND OXIAhOXIA AND PROSGEGRAMMENIhPERISPOMENI
hPERISPOMENI AND PROSGEGRAMMENIhPROSGEGRAMMENIhVARIAhVARIA AND PROSGEGRAMMENIfTONOSfVARIAfVRACHYdARCHAIC SAMPIdBETA
dCHIdDELTAdEPSILONdEPSILON WITH DASIAfDASIA AND OXIAhVARIAfOXIAfPSILIfPSILI AND OXIAhVARIAfTONOSfVARIAdETA
dETA WITH DASIAfDASIA AND OXIAhOXIA AND PROSGEGRAMMENIhPERISPOMENIhPERISPOMENI AND PROSGEGRAMMENIhPROSGEGRAMMENIhVARIA
hVARIA AND PROSGEGRAMMENIfOXIAfPROSGEGRAMMENIfPSILIfPSILI AND OXIAhOXIA AND PROSGEGRAMMENIhPERISPOMENI
hPERISPOMENI AND PROSGEGRAMMENIhPROSGEGRAMMENIhVARIAhVARIA AND PROSGEGRAMMENIfTONOSfVARIAdGAMMAdHETAdIOTA
dIOTA WITH DASIAfDASIA AND OXIAhPERISPOMENIhVARIAfDIALYTIKAfMACRONfOXIAfPSILIfPSILI AND OXIAhPERISPOMENIhVARIAfTONOS
fVARIAfVRACHYdKAPPAdLAMDAdMUdNUdOMEGAdOMEGA WITH DASIAfDASIA AND OXIAhOXIA AND PROSGEGRAMMENIhPERISPOMENI
hPERISPOMENI AND PROSGEGRAMMENIhPROSGEGRAMMENIhVARIAhVARIA AND PROSGEGRAMMENIfOXIAfPROSGEGRAMMENIfPSILIfPSILI AND OXIA
hOXIA AND PROSGEGRAMMENIhPERISPOMENIhPERISPOMENI AND PROSGEGRAMMENIhPROSGEGRAMMENIhVARIAhVARIA AND PROSGEGRAMMENI
fTONOSfVARIAdOMICRONdOMICRON WITH DASIAfDASIA AND OXIAhVARIAfOXIAfPSILIfPSILI AND OXIAhVARIAfTONOSfVARIA
dPAMPHYLIAN DIGAMMAdPHIdPIdPSIdRHOdRHO WITH DASIAdSANdSHOdSIGMAdTAUdTHETAdUPSILONdUPSILON WITH DASIAfDASIA AND OXIA
hPERISPOMENIhVARIAfDIALYTIKAfMACRONfOXIAfTONOSfVARIAfVRACHYdXIdYOTdZETAcLUNATE SIGMA SYMBOL
cREVERSED DOTTED LUNATE SIGMA SYMBOLdLUNATE SIGMA SYMBOLcTHETA SYMBOLbDASIAbDASIA AND OXIAdPERISPOMENIdVARIA
bDIALYTIKA AND OXIAdPERISPOMENIdVARIAcTONOSbDRACHMA SIGNbFIVE OBOLS SIGNbFOUR OBOLS SIGNbGRAMMA SIGNbINDICTION SIGN
bINSTRUMENTAL NOTATION SYMBOL-1e11e12e13e14e17e18e19e2e23e24e25e26e27e29e30e32e36e37e38e39e4e40e42e43e45e47e48e49e5e50
e51e52e53e54e7e8bKAI SYMBOLbKAPPA SYMBOLbKORONISbKYATHOS BASE SIGNbLETTER ARCHAIC KOPPAcDIGAMMAcKOPPAcSAMPI
cSMALL CAPITAL GAMMAeLAMDAeOMEGAePIePSIeRHOcSTIGMAcYOTbLITRA SIGNbLOWER NUMERAL SIGNbLUNATE EPSILON SYMBOL
cSIGMA SYMBOLbMETRETES SIGNbMUSICAL LEIMMAbNUMERAL SIGNbOBOL SIGNbONE HALF SIGNdSIGN ALTERNATE FORMcQUARTER SIGN
bOUNKIA SIGNbOXIAbPERISPOMENIbPHI SYMBOLbPI SYMBOLbPROSGEGRAMMENIbPSILIbPSILI AND OXIAdPERISPOMENIdVARIAbQUESTION MARK
bREVERSED LUNATE EPSILON SYMBOLbRHO SYMBOLcWITH STROKE SYMBOLbSINUSOID SIGNbSMALL DOTTED LUNATE SIGMA SYMBOL
cLETTER ALPHAdALPHA WITH DASIAfDASIA AND OXIAhOXIA AND YPOGEGRAMMENIhPERISPOMENIhPERISPOMENI AND YPOGEGRAMMENIhVARIA
hVARIA AND YPOGEGRAMMENIhYPOGEGRAMMENIfMACRONfOXIAfOXIA AND YPOGEGRAMMENIfPERISPOMENIfPERISPOMENI AND YPOGEGRAMMENI
fPSILIfPSILI AND OXIAhOXIA AND YPOGEGRAMMENIhPERISPOMENIhPERISPOMENI AND YPOGEGRAMMENIhVARIAhVARIA AND YPOGEGRAMMENI
hYPOGEGRAMMENIfTONOSfVARIAfVARIA AND YPOGEGRAMMENIfVRACHYfYPOGEGRAMMENIdARCHAIC KOPPAeSAMPIdBETAdCHIdDELTAdDIGAMMA
dEPSILONdEPSILON WITH DASIAfDASIA AND OXIAhVARIAfOXIAfPSILIfPSILI AND OXIAhVARIAfTONOSfVARIAdETAdETA WITH DASIA
fDASIA AND OXIAhOXIA AND YPOGEGRAMMENIhPERISPOMENIhPERISPOMENI AND YPOGEGRAMMENIhVARIAhVARIA AND YPOGEGRAMMENI
hYPOGEGRAMMENIfOXIAfOXIA AND YPOGEGRAMMENIfPERISPOMENIfPERISPOMENI AND YPOGEGRAMMENIfPSILIfPSILI AND OXIA
hOXIA AND YPOGEGRAMMENIhPERISPOMENIhPERISPOMENI AND YPOGEGRAMMENIhVARIAhVARIA AND YPOGEGRAMMENIhYPOGEGRAMMENIfTONOS
fVARIAfVARIA AND YPOGEGRAMMENIfYPOGEGRAMMENIdFINAL SIGMAdGAMMAdHETAdIOTAdIOTA WITH DASIAfDASIA AND OXIAhPERISPOMENI
hVARIAfDIALYTIKAfDIALYTIKA AND OXIAhPERISPOMENIhTONOShVARIAfMACRONfOXIAfPERISPOMENIfPSILIfPSILI AND OXIAhPERISPOMENI
hVARIAfTONOSfVARIAfVRACHYdKAPPAdKOPPAdLAMDAdMUdNUdOMEGAdOMEGA WITH DASIAfDASIA AND OXIAhOXIA AND YPOGEGRAMMENI
hPERISPOMENIhPERISPOMENI AND YPOGEGRAMMENIhVARIAhVARIA AND YPOGEGRAMMENIhYPOGEGRAMMENIfOXIAfOXIA AND YPOGEGRAMMENI
fPERISPOMENIfPERISPOMENI AND YPOGEGRAMMENIfPSILIfPSILI AND OXIAhOXIA AND YPOGEGRAMMENIhPERISPOMENI
hPERISPOMENI AND YPOGEGRAMMENIhVARIAhVARIA AND YPOGEGRAMMENIhYPOGEGRAMMENIfTONOSfVARIAfVARIA AND YPOGEGRAMMENI
fYPOGEGRAMMENIdOMICRONdOMICRON WITH DASIAfDASIA AND OXIAhVARIAfOXIAfPSILIfPSILI AND OXIAhVARIAfTONOSfVARIA
dPAMPHYLIAN DIGAMMAdPHIdPIdPSIdRHOdRHO WITH DASIAfPSILIdSAMPIdSANdSHOdSIGMAdSTIGMAdTAUdTHETAdUPSILON
dUPSILON WITH DASIAfDASIA AND OXIAhPERISPOMENIhVARIAfDIALYTIKAfDIALYTIKA AND OXIAhPERISPOMENIhTONOShVARIAfMACRONfOXIA
fPERISPOMENIfPSILIfPSILI AND OXIAhPERISPOMENIhVARIAfTONOSfVARIAfVRACHYdXIdZETAcREVERSED DOTTED LUNATE SIGMA SYMBOL
dLUNATE SIGMA SYMBOLbSUBSCRIPT SMALL LETTER BETAeCHIeGAMMAePHIeRHObSYMBOL TAU RHObTALENT SIGNbTHETA SYMBOL
bTHREE OBOLS SIGNcQUARTERS SIGNbTONOSbTRYBLION BASE SIGNbTWO OBOLS SIGNcTHIRDS SIGNbUPSILON WITH ACUTE AND HOOK SYMBOL
dDIAERESIS AND HOOK SYMBOLdHOOK SYMBOLbVARIAbVOCAL NOTATION SYMBOL-1e10e11e12e13e14e15e16e17e18e19e2e20e21e22e23e24e3
e4e5e50e51e52e53e54e6e7e8e9bXESTES SIGNbYEAR SIGNbYPOGEGRAMMENIbZERO SIGNaGREEN APPLEbBOOKbHEARTbSALADaGRIMACING FACE
aGRINNING CAT FACE WITH SMILING EYESbFACEbFACE WITH ONE LARGE AND ONE SMALL EYEdSMILING EYESdSTAR EYESaGROUP MARK
bSEPARATORaGROWING HEARTaGSaGUARANI SIGNaGUARDSMANaGUIDE DOGaGUITARaGUJARATI ABBREVIATION SIGNbDIGIT EIGHTcFIVEcFOUR
cNINEcONEcSEVENcSIXcTHREEcTWOcZERObLETTER AcAAcAIcAUcBAcBHAcCAcCHAcDAcDDAcDDHAcDHAcEcGAcGHAcHAcIcIIcJAcJHAcKAcKHAcLA
cLLAcMAcNAcNGAcNNAcNYAcOcPAcPHAcRAcSAcSHAcSSAcTAcTHAcTTAcTTHAcUcUUcVAcVOCALIC LdLLdRdRRcYAcZHAbOMbRUPEE SIGN
bSIGN ANUSVARAcAVAGRAHAcCANDRABINDUcCIRCLE NUKTA ABOVEcMADDAHcNUKTAcSHADDAcSUKUNcTHREE-DOT NUKTA ABOVE
cTWO-CIRCLE NUKTA ABOVEcVIRAMAcVISARGAbVOWEL CANDRA EdOcSIGN AAdAIdAUdCANDRA EeOdEdIdIIdOdUdUUdVOCALIC LeLLeReRR
aGUNJALA GONDI DIGIT EIGHTdFIVEdFOURdNINEdONEdSEVENdSIXdTHREEdTWOdZEROcLETTER AdAAdAIdAUdBAdBHAdCAdCHAdDAdDDAdDDHAdDHA
dEEdGAdGHAdHAdIdIIdJAdJHAdKAdKHAdLAdLLAdMAdNAdNGAdOOdPAdPHAdRAdSAdTAdTHAdTTAdTTHAdUdUUdVAdYAcOMcSIGN ANUSVARAdVISARGA
cVIRAMAcVOWEL SIGN AAeAIeAUeEEeIeIIeOOeUeUUaGURMUKHI ABBREVIATION SIGNbADDAKbDIGIT EIGHTcFIVEcFOURcNINEcONEcSEVENcSIX
cTHREEcTWOcZERObEK ONKARbIRIbLETTER AcAAcAIcAUcBAcBHAcCAcCHAcDAcDDAcDDHAcDHAcEEcFAcGAcGHAcGHHAcHAcIcIIcJAcJHAcKAcKHA
cKHHAcLAcLLAcMAcNAcNGAcNNAcNYAcOOcPAcPHAcRAcRRAcSAcSHAcTAcTHAcTTAcTTHAcUcUUcVAcYAcZAbSIGN ADAK BINDIcBINDIcNUKTAcUDAAT
cVIRAMAcVISARGAcYAKASHbTIPPIbURAbVOWEL SIGN AAdAIdAUdEEdIdIIdOOdUdUUaHADESaHAIR SPACEaHAIRCUTaHALFWIDTH BLACK SQUARE
bDOWNWARDS ARROWbFORMS LIGHT VERTICALbHANGUL FILLERcLETTER AdAEdCHIEUCHdCIEUCdEdEOdEUdHIEUHdIdIEUNGdKHIEUKHdKIYEOK
dKIYEOK-SIOSdMIEUMdNIEUNdNIEUN-CIEUCeHIEUHdOdOEdPHIEUPHdPIEUPdPIEUP-SIOSdRIEULdRIEUL-HIEUHeKIYEOKeMIEUMePHIEUPHePIEUP
eSIOSeTHIEUTHdSIOSdSSANGCIEUCdSSANGKIYEOKdSSANGPIEUPdSSANGSIOSdSSANGTIKEUTdTHIEUTHdTIKEUTdUdWAdWAEdWEdWEOdWIdYAdYAEdYE
dYEOdYIdYOdYUbIDEOGRAPHIC COMMAcFULL STOPbKATAKANA LETTER AdEdHAdHEdHIdHOdHUdIdKAdKEdKIdKOdKUdMAdMEdMIdMOdMUdNdNAdNE
dNIdNOdNUdOdRAdREdRIdROdRUdSAdSEdSIdSMALL AeEeIeOeTUeUeYAeYOeYUdSOdSUdTAdTEdTIdTOdTUdUdWAdWOdYAdYOdYUcMIDDLE DOT
cSEMI-VOICED SOUND MARKcVOICED SOUND MARKbKATAKANA-HIRAGANA PROLONGED SOUND MARKbLEFT CORNER BRACKETbLEFTWARDS ARROW
bRIGHT CORNER BRACKETbRIGHTWARDS ARROWbUPWARDS ARROWbWHITE CIRCLEaHAMBURGERaHAMMERaHAMMER AND PICKcSICKLEcWRENCHaHAMSA
aHAMSTER FACEaHAND WITH INDEX AND MIDDLE FINGERS CROSSEDdFINGER AND THUMB CROSSEDaHANDBAGaHANDBALLaHANDSHAKE
aHANGUL CHOSEONG CEONGCHIEUMCHIEUCHcCEONGCHIEUMCIEUCcCEONGCHIEUMSIOScCEONGCHIEUMSSANGCIEUCcCEONGCHIEUMSSANGSIOS
cCHIEUCHcCHIEUCH-HIEUHdKHIEUKHcCHITUEUMCHIEUCHcCHITUEUMCIEUCcCHITUEUMSIOScCHITUEUMSSANGCIEUCcCHITUEUMSSANGSIOScCIEUC
cCIEUC-IEUNGcFILLERcHIEUHcHIEUH-SIOScIEUNGcIEUNG-CHIEUCHdCIEUCdHIEUHdKIYEOKdMIEUMdPANSIOSdPHIEUPHdPIEUPdRIEULdSIOS
dTHIEUTHdTIKEUTcKAPYEOUNMIEUMcKAPYEOUNPHIEUPHcKAPYEOUNPIEUPcKAPYEOUNRIEULcKAPYEOUNSSANGPIEUPcKHIEUKHcKIYEOK
cKIYEOK-TIKEUTcMIEUMcMIEUM-KIYEOKdPIEUPdSIOSdTIKEUTcNIEUNcNIEUN-CIEUCdHIEUHdKIYEOKdPIEUPdSIOSdTIKEUTcPANSIOScPHIEUPH
cPHIEUPH-HIEUHdPIEUPcPIEUPcPIEUP-CHIEUCHdCIEUCdHIEUHdKHIEUKHdKIYEOKdNIEUNdPHIEUPHdSIOSdSIOS-CIEUCeKIYEOKePIEUPeTHIEUTH
eTIKEUTdSSANGSIOSdTHIEUTHdTIKEUTcRIEULcRIEUL-CIEUCdHIEUHdKAPYEOUNPIEUPdKHIEUKHdKIYEOKdMIEUMdNIEUNdPIEUPdSIOS
dSSANGKIYEOKdSSANGPIEUPdSSANGTIKEUTdTIKEUTcSIOScSIOS-CHIEUCHdCIEUCdHIEUHdIEUNGdKHIEUKHdKIYEOKdMIEUMdNIEUNdPHIEUPH
dPIEUPdPIEUP-KIYEOKdRIEULdSSANGSIOSdTHIEUTHdTIKEUTcSSANGCIEUCcSSANGCIEUC-HIEUHcSSANGHIEUHcSSANGIEUNGcSSANGKIYEOK
cSSANGNIEUNcSSANGPIEUPcSSANGRIEULcSSANGSIOScSSANGSIOS-PIEUPcSSANGTHIEUTHcSSANGTIKEUTcSSANGYEORINHIEUHcTHIEUTHcTIKEUT
cTIKEUT-CIEUCdKIYEOKdMIEUMdPIEUPdRIEULdSIOScYEORINHIEUHcYESIEUNGbDOUBLE DOT TONE MARKbFILLERbJONGSEONG CHIEUCHcCIEUC
cCIEUC-PIEUPdSSANGPIEUPcHIEUHcHIEUH-MIEUMdNIEUNdPIEUPdRIEULcIEUNGcIEUNG-KHIEUKHdKIYEOKdSSANGKIYEOKcKAPYEOUNMIEUM
cKAPYEOUNPHIEUPHcKAPYEOUNPIEUPcKAPYEOUNRIEULcKHIEUKHcKIYEOKcKIYEOK-CHIEUCHdHIEUHdKHIEUKHdNIEUNdPIEUPdRIEULdSIOS
dSIOS-KIYEOKcMIEUMcMIEUM-CHIEUCHdCIEUCdHIEUHdKIYEOKdNIEUNdPANSIOSdPIEUPdPIEUP-SIOSdRIEULdSIOSdSSANGNIEUNdSSANGSIOS
cNIEUNcNIEUN-CHIEUCHdCIEUCdHIEUHdKIYEOKdPANSIOSdRIEULdSIOSdTHIEUTHdTIKEUTcPANSIOScPANSIOS-KAPYEOUNPIEUPdPIEUPcPHIEUPH
cPHIEUPH-PIEUPdSIOSdTHIEUTHcPIEUPcPIEUP-CHIEUCHdCIEUCdHIEUHdMIEUMdPHIEUPHdRIEULdRIEUL-PHIEUPHdSIOSdSIOS-TIKEUTdTIKEUT
cRIEULcRIEUL-HIEUHdKAPYEOUNPIEUPdKHIEUKHdKIYEOKdKIYEOK-HIEUHeSIOSdMIEUMdMIEUM-HIEUHeKIYEOKeSIOSdNIEUNdPANSIOSdPHIEUPH
dPIEUPdPIEUP-HIEUHePHIEUPHeSIOSeTIKEUTdSIOSdSSANGKIYEOKdSSANGSIOSdTHIEUTHdTIKEUTdTIKEUT-HIEUHdYEORINHIEUH
dYEORINHIEUH-HIEUHdYESIEUNGcSIOScSIOS-CHIEUCHdCIEUCdHIEUHdKAPYEOUNPIEUPdKIYEOKdMIEUMdPANSIOSdPIEUPdRIEULdTHIEUTH
dTIKEUTcSSANGCIEUCcSSANGIEUNGcSSANGKIYEOKcSSANGMIEUMcSSANGNIEUNcSSANGPIEUPcSSANGRIEULcSSANGRIEUL-KHIEUKHcSSANGSIOS
cSSANGSIOS-KIYEOKdTIKEUTcSSANGTIKEUTcSSANGTIKEUT-PIEUPcSSANGYESIEUNGcTHIEUTHcTIKEUTcTIKEUT-CHIEUCHdCIEUCdKIYEOKdPIEUP
dRIEULdSIOSdSIOS-KIYEOKdTHIEUTHcYEORINHIEUHcYESIEUNGcYESIEUNG-HIEUHdKHIEUKHdKIYEOKdMIEUMdPANSIOSdSIOSdSSANGKIYEOK
bJUNGSEONG AcA-EUdOdUcAEcARAEAcARAEA-AdEdEOdIdUcEcEOcEO-EUdOdUcEUcEU-AdEdEOdEUdOdUcFILLERcIcI-AdARAEAdEUdIdOdO-IdUdYA
dYA-OdYAEdYEdYEOdYOdYUcOcO-EdEOdOdO-IdUdYAdYAEdYEdYEOcOEcSSANGARAEAcUcU-AdAEdEO-EUdI-IdUdYEdYEOcWAcWAEcWEcWEOcWIcYA
cYA-OdUdYOcYAEcYEcYEOcYEO-OdUdYAcYIcYI-UcYOcYO-AdAEdEOdIdOdYAdYAEdYEOcYUcYU-AdAEdEdEOdIdOdUdYEdYEObLETTER AcAEcARAEA
cARAEAEcCHIEUCHcCIEUCcEcEOcEUcHIEUHcIcIEUNGcKAPYEOUNMIEUMcKAPYEOUNPHIEUPHcKAPYEOUNPIEUPcKAPYEOUNSSANGPIEUPcKHIEUKH
cKIYEOKcKIYEOK-SIOScMIEUMcMIEUM-PANSIOSdPIEUPdSIOScNIEUNcNIEUN-CIEUCdHIEUHdPANSIOSdSIOSdTIKEUTcOcOEcPANSIOScPHIEUPH
cPIEUPcPIEUP-CIEUCdKIYEOKdSIOSdSIOS-KIYEOKeTIKEUTdTHIEUTHdTIKEUTcRIEULcRIEUL-HIEUHdKIYEOKdKIYEOK-SIOSdMIEUMdPANSIOS
dPHIEUPHdPIEUPdPIEUP-SIOSdSIOSdTHIEUTHdTIKEUTdYEORINHIEUHcSIOScSIOS-CIEUCdKIYEOKdNIEUNdPIEUPdTIKEUTcSSANGCIEUC
cSSANGHIEUHcSSANGIEUNGcSSANGKIYEOKcSSANGNIEUNcSSANGPIEUPcSSANGSIOScSSANGTIKEUTcTHIEUTHcTIKEUTcUcWAcWAEcWEcWEOcWIcYA
cYAEcYEcYEOcYEORINHIEUHcYESIEUNGcYESIEUNG-PANSIOSdSIOScYIcYOcYO-IdYAdYAEcYUcYU-IdYEdYEObSINGLE DOT TONE MARK
aHANGZHOU NUMERAL EIGHTcFIVEcFOURcNINEcONEcSEVENcSIXcTENcTHIRTYcTHREEcTWENTYcTWOaHANIFI ROHINGYA DIGIT EIGHTdFIVEdFOUR
dNINEdONEdSEVENdSIXdTHREEdTWOdZEROcLETTER AdBAdCAdDAdDDAdFAdGAdHAdJAdKAdKHAdKINNA WAeYAdLAdMAdNAdNGAdNYAdPAdRAdRRAdSA
dSHAdTAdTTAdVAdWAdYAdZAcMARK NA KHONNAdSAKINcSIGN HARBAHAYdTAHALAdTANAdTASSIcVOWEL AdEdIdOdUaHANUNOO LETTER AcBAcDAcGA
cHAcIcKAcLAcMAcNAcNGAcPAcRAcSAcTAcUcWAcYAbSIGN PAMUDPODbVOWEL SIGN IdUaHAPPY PERSON RAISING ONE HANDaHARD DISK
aHATCHING CHICKaHATRAN LETTER ALEPHcAYNcBETHcDALETH-RESHcGIMELcHEcHETHcKAPHcLAMEDHcMEMcNUNcPEcQOPHcSADHEcSAMEKHcSHIN
cTAWcTETHcWAWcYODHcZAYNbNUMBER FIVEcONEcONE HUNDREDcTENcTWENTYaHEADPHONEaHEADSTONEaHEADSTONE GRAVEYARD SYMBOL
aHEAR-NO-EVIL MONKEYaHEART DECORATIONbHANDSbWITH ARROWcRIBBONcTIP ON THE LEFTaHEAVY AMPERSAND ORNAMENT
bARROW SHAFT WIDTH ONEeONE HALFfTHIRDeTWO THIRDSbASTERISKbBALLOT XbBLACK CURVED DOWNWARDS AND RIGHTWARDS ARROW
dUPWARDS AND RIGHTWARDS ARROWcHEARTbBLACK-FEATHERED NORTH EAST ARROWdRIGHTWARDS ARROWdSOUTH EAST ARROWbCHECK MARK
bCHEVRON SNOWFLAKEbCIRCLEbCIRCLE WITH CIRCLE INSIDEdSTROKE AND TWO DOTS ABOVEbCIRCLED SALTIRE
bCONCAVE-POINTED BLACK RIGHTWARDS ARROWbDASHED TRIANGLE-HEADED RIGHTWARDS ARROWbDIVISION SIGNbDOLLAR SIGN
bDOUBLE COMMA QUOTATION MARK ORNAMENTcTURNED COMMA QUOTATION MARK ORNAMENTbDOWNWARDS ARROW WITH EQUILATERAL ARROWHEAD
eLARGE EQUILATERAL ARROWHEADbEIGHT POINTED BLACK STARdPINWHEEL STARdRECTILINEAR BLACK STARcSPOKED ASTERISK
cTEARDROP-SPOKED PROPELLER ASTERISKbEQUALS SIGNbEXCLAMATION MARK ORNAMENTdSYMBOLbFIVE POINTED BLACK STAR
cSPOKED ASTERISKbFOUR BALLOON-SPOKED ASTERISKbGREEK CROSSbHEART EXCLAMATION MARK ORNAMENTbHORIZONTAL FILL
bINTERROBANG ORNAMENTbLARGE CIRCLEbLATIN CROSSbLEFT-POINTING ANGLE BRACKET ORNAMENTeQUOTATION MARK ORNAMENT
bLEFTWARDS ARROW WITH EQUILATERAL ARROWHEADeLARGE EQUILATERAL ARROWHEADbLIGATURE OPEN ET ORNAMENT
bLOW DOUBLE COMMA QUOTATION MARK ORNAMENTcSINGLE COMMA QUOTATION MARK ORNAMENT
bLOWER RIGHT-SHADOWED WHITE RIGHTWARDS ARROWbMINUS SIGNbMULTIPLICATION XbNORTH EAST ARROWdPOINTING BUDeVINE LEAF
cWEST POINTING BUDeVINE LEAFbOPEN CENTRE CROSSbOUTLINED BLACK STARbOVAL WITH OVAL INSIDEbPLUS SIGN
bRIGHT-POINTING ANGLE BRACKET ORNAMENTeQUOTATION MARK ORNAMENTbRIGHTWARDS ARROWcARROW WITH EQUILATERAL ARROWHEAD
eLARGE EQUILATERAL ARROWHEADbROUND-TIPPED RIGHTWARDS ARROWbSALTIREbSANS-SERIF INTERROBANG ORNAMENT
bSCRIPT LIGATURE ET ORNAMENTbSINGLE COMMA QUOTATION MARK ORNAMENTcTURNED COMMA QUOTATION MARK ORNAMENT
bSIX POINTED BLACK STARcSPOKED ASTERISKbSOUTH EAST ARROWdPOINTING BUDeVINE LEAFcWEST POINTING BUDeVINE LEAFbSPARKLE
bTEARDROP-SHANKED RIGHTWARDS ARROWcSPOKED ASTERISKdPINWHEEL ASTERISKbTRIANGLE-HEADED RIGHTWARDS ARROW
bTWELVE POINTED BLACK STARdPINWHEEL STARbUPPER RIGHT-SHADOWED WHITE RIGHTWARDS ARROW
bUPWARDS ARROW WITH EQUILATERAL ARROWHEADeLARGE EQUILATERAL ARROWHEADbVERTICAL BARbWEDGE-TAILED RIGHTWARDS ARROW
bWHITE CIRCLEcDOWN-POINTING TRIANGLEcSQUAREbWIDE-HEADED RIGHTWARDS ARROWaHEBREW ACCENT ATNAH HAFUKHcDARGAcDEHIcETNAHTA
cGERESHcGERESH MUQDAMcGERSHAYIMcILUYcMAHAPAKHcMERKHAcMERKHA KEFULAcMUNAHcOLEcPASHTAcPAZERcQADMAcQARNEY PARAcREVIA
cSEGOLcSHALSHELETcTELISHA GEDOLAdQETANAcTEVIRcTIPEHAcYERAH BEN YOMOcYETIVcZAQEF GADOLdQATANcZARQAcZINORbLETTER ALEF
cALEF WITH MAPIQePATAHeQAMATScALTERNATIVE AYINdPLUS SIGNcAYINcBETcBET WITH DAGESHeRAFEcDALETcDALET WITH DAGESH
cFINAL KAFdKAF WITH DAGESHdMEMdNUNdPEdPE WITH DAGESHdTSADIcGIMELcGIMEL WITH DAGESHcHEcHE WITH MAPIQcHETcKAF
cKAF WITH DAGESHeRAFEcLAMEDcLAMED WITH DAGESHcMEMcMEM WITH DAGESHcNUNcNUN WITH DAGESHcPEcPE WITH DAGESHeRAFEcQOF
cQOF WITH DAGESHcRESHcRESH WITH DAGESHcSAMEKHcSAMEKH WITH DAGESHcSHINcSHIN WITH DAGESHeDAGESH AND SHIN DOTgSIN DOT
eSHIN DOTeSIN DOTcTAVcTAV WITH DAGESHcTETcTET WITH DAGESHcTSADIcTSADI WITH DAGESHcVAVcVAV WITH DAGESHeHOLAMcWIDE ALEF
dDALETdFINAL MEMdHEdKAFdLAMEDdRESHdTAVcYODcYOD WITH DAGESHeHIRIQcZAYINcZAYIN WITH DAGESHbLIGATURE ALEF LAMED
cYIDDISH DOUBLE VAVeYODdVAV YODdYOD YOD PATAHbMARK LOWER DOTcMASORA CIRCLEcUPPER DOTbPOINT DAGESH OR MAPIQcHATAF PATAH
dQAMATSdSEGOLcHIRIQcHOLAMcHOLAM HASER FOR VAVcJUDEO-SPANISH VARIKAcMETEGcPATAHcQAMATScQAMATS QATANcQUBUTScRAFEcSEGOL
cSHEVAcSHIN DOTcSIN DOTcTSEREbPUNCTUATION GERESHcGERSHAYIMcMAQAFcNUN HAFUKHAcPASEQcSOF PASUQbYOD TRIANGLEaHEDGEHOG
aHELICOPTERaHELLSCHREIBER PAUSE SYMBOLaHELM SYMBOLaHELMET WITH WHITE CROSSaHENTAIGANA LETTER A-1d2d3dWOcE-1d2d3d4d5d6
cHA-1d10d11d2d3d4d5d6d7d8d9cHE-1d2d3d4d5d6d7cHI-1d2d3d4d5d6d7cHO-1d2d3d4d5d6d7d8cHU-1d2d3cI-1d2d3d4cKA-1d10d11d2d3d4d5
d6d7d8d9dKEcKE-1d2d3d4d5d6cKI-1d2d3d4d5d6d7d8cKO-1d2d3dKIcKU-1d2d3d4d5d6d7cMA-1d2d3d4d5d6d7cME-1d2dMAcMI-1d2d3d4d5d6d7
cMO-1d2d3d4d5d6cMU-1d2d3d4cN-MU-MO-1f2cNA-1d2d3d4d5d6d7d8d9cNE-1d2d3d4d5d6dKOcNI-1d2d3d4d5d6d7dTEcNO-1d2d3d4d5cNU-1d2
d3cO-1d2d3cRA-1d2d3d4cRE-1d2d3d4cRI-1d2d3d4d5d6d7cRO-1d2d3d4d5d6cRU-1d2d3d4d5d6cSA-1d2d3d4d5d6d7d8cSE-1d2d3d4d5cSI-1d2
d3d4d5d6cSO-1d2d3d4d5d6d7cSU-1d2d3d4d5d6d7d8cTA-1d2d3d4cTE-1d2d3d4d5d6d7d8d9cTI-1d2d3d4d5d6d7cTO-1d2d3d4d5d6dRAcTU-1d2
d3d4dTOcU-1d2d3d4d5cWA-1d2d3d4d5cWE-1d2d3d4cWI-1d2d3d4d5cWO-1d2d3d4d5d6d7cYA-1d2d3d4d5dYOcYO-1d2d3d4d5d6cYU-1d2d3d4
aHERBaHERMITIAN CONJUGATE MATRIXaHEXAGRAM FOR ABUNDANCEcAFTER COMPLETIONcAPPROACHcBEFORE COMPLETIONcBITING THROUGH
cBREAKTHROUGHcCOMING TO MEETcCONFLICTcCONTEMPLATIONcDARKENING OF THE LIGHTcDECREASEcDELIVERANCEcDEVELOPMENT
cDIFFICULTY AT THE BEGINNINGcDISPERSIONcDURATIONcENTHUSIASMcFELLOWSHIPcFOLLOWINGcGATHERING TOGETHERcGRACE
cGREAT POSSESSIONdPOWERdPREPONDERANCEdTAMINGcHOLDING TOGETHERcINCREASEcINFLUENCEcINNER TRUTHcINNOCENCEcLIMITATION
cMODESTYcMOUTH CORNERScOBSTRUCTIONcOPPOSITIONcOPPRESSIONcPEACEcPROGRESScPUSHING UPWARDcRETREATcRETURNcREVOLUTION
cSMALL PREPONDERANCEdTAMINGcSPLITTING APARTcSTANDSTILLcTHE ABYSMAL WATERdARMYdAROUSING THUNDERdCAULDRONdCLINGING FIRE
dCREATIVE HEAVENdFAMILYdGENTLE WINDdJOYOUS LAKEdKEEPING STILL MOUNTAINdMARRYING MAIDENdRECEPTIVE EARTHdWANDERERdWELL
cTREADINGcWAITINGcWORK ON THE DECAYEDcYOUTHFUL FOLLYaHIBISCUSaHIGH BRIGHTNESS SYMBOLbOCTET PRESETbVOLTAGE SIGN
aHIGH-HEELED SHOEbSPEED TRAINcTRAIN WITH BULLET NOSEaHIKING BOOTaHINDU TEMPLEaHIPPOPOTAMUSaHIRAGANA DIGRAPH YORI
bITERATION MARKbLETTER AcARCHAIC WUdYEcBAcBEcBIcBOcBUcDAcDEcDIcDOcDUcEcGAcGEcGIcGOcGUcHAcHEcHIcHOcHUcIcKAcKEcKIcKOcKU
cMAcMEcMIcMOcMUcNcNAcNEcNIcNOcNUcOcPAcPEcPIcPOcPUcRAcREcRIcROcRUcSAcSEcSIcSMALL AdEdIdKAdKEdOdTUdUdWAdWEdWIdWOdYAdYO
dYUcSOcSUcTAcTEcTIcTOcTUcUcVUcWAcWEcWIcWOcYAcYOcYUcZAcZEcZIcZOcZUbVOICED ITERATION MARKaHISTORIC SITEaHOCHOaHOLE
aHOLLOW QUILT SQUARE ORNAMENTdORNAMENT IN BLACK SQUAREaHOMOTHETICaHONEY POTaHONEYBEEaHOOKaHOPaHORIZONTAL BAR
bBLACK HEXAGONcOCTAGONbELLIPSISbLINE EXTENSIONbMALE WITH STROKE SIGNbONE EIGHTH BLOCK-1358e2e3e4e5e6e7bSCAN LINE-1d3d7
d9bTAB KEYbTABULATIONbTABULATION SETcWITH JUSTIFICATIONbTRAFFIC LIGHTaHORSEaHORSE FACEbRACINGaHOSPITALaHOT BEVERAGE
bDOGbPEPPERbSPRINGSaHOTELaHOURGLASSaHOURGLASS WITH FLOWING SANDaHOUSEaHOUSE BUILDINGbBUILDINGSbWITH GARDEN
aHRYVNIA SIGNaHTaHTJaHTSaHUGGING FACEaHUNDRED POINTS SYMBOLaHUSHED FACEaHUTaHYGIEAaHYPHENaHYPHEN BULLETbWITH DIAERESIS
aHYPHEN-MINUSaHYPHENATION POINTaHYPODIASTOLEaHYSTERESIS SYMBOLaI LOVE YOU HAND SIGNaICE CREAMbCUBE
bHOCKEY STICK AND PUCKbSKATEaIDENTICAL TObTO AND SLANTED PARALLELbWITH DOT ABOVEaIDENTIFICATION CARD
aIDEOGRAPHIC ANNOTATION BOTTOM MARKcEARTH MARKcFIRST MARKcFOUR MARKcFOURTH MARKcHEAVEN MARKcLINKING MARKcMAN MARK
cMIDDLE MARKcONE MARKcREVERSE MARKcSECOND MARKcTHIRD MARKcTHREE MARKcTOP MARKcTWO MARKbCLOSING MARKbCOMMA
bDEPARTING TONE MARKbDESCRIPTION CHARACTER ABOVE TO BELOWfMIDDLE AND BELOWdFULL SURROUNDdLEFT TO MIDDLE AND RIGHT
fRIGHTdOVERLAIDdSURROUND FROM ABOVEfBELOWfLEFTfLOWER LEFTfUPPER LEFTgRIGHTbENTERING TONE MARKbFULL STOP
bHALF FILL SPACEbITERATION MARKbLEVEL TONE MARKbNUMBER ZERObRISING TONE MARKbSPACEbTALLY MARK FIVEdFOURdONEdTHREEdTWO
bTELEGRAPH LINE FEED SEPARATOR SYMBOLcSYMBOL FOR APRILeAUGUSTeDAY EIGHTfEIGHTEENfELEVENfFIFTEENfFIVEfFOURfFOURTEEN
fNINEfNINETEENfONEfSEVENfSEVENTEENfSIXfSIXTEENfTENfTHIRTEENfTHIRTYfTHIRTY-ONEfTHREEfTWELVEfTWENTYfTWENTY-EIGHTgFIVE
gFOURgNINEgONEgSEVENgSIXgTHREEgTWOfTWOeDECEMBEReFEBRUARYeHOUR EIGHTfEIGHTEENfELEVENfFIFTEENfFIVEfFOURfFOURTEENfNINE
fNINETEENfONEfSEVENfSEVENTEENfSIXfSIXTEENfTENfTHIRTEENfTHREEfTWELVEfTWENTYfTWENTY-FOURgONEgTHREEgTWOfTWOfZEROeJANUARY
eJULYeJUNEeMARCHeMAYeNOVEMBEReOCTOBEReSEPTEMBERbVARIATION INDICATORaIMAGE OFbOF OR APPROXIMATELY EQUAL TOaIMP
aIMPERIAL ARAMAIC LETTER ALEPHdAYINdBETHdDALETHdGIMELdHEdHETHdKAPHdLAMEDHdMEMdNUNdPEdQOPHdRESHdSADHEdSAMEKHdSHINdTAW
dTETHdWAWdYODHdZAYINcNUMBER ONEdONE HUNDREDeTHOUSANDdTENdTEN THOUSANDdTHREEdTWENTYdTWOcSECTION SIGNaINBOX TRAY
aINCOMING ENVELOPEaINCOMPLETE INFINITYaINCREASE FONT SIZE SYMBOLaINCREASES ASaINCREMENTaINDaINDEX
aINDEX POINTING AT THE VIEWERaINDIAN RUPEE SIGNaINDIC SIYAQ ALTERNATE LAKH MARKcFRACTION ONE HALFeQUARTER
dTHREE QUARTERScLAKH MARKcNUMBER ALTERNATE ONEeTEN THOUSANDeTWOdEIGHTdEIGHT HUNDREDeTHOUSANDdEIGHTYdEIGHTY THOUSAND
dFIFTYdFIFTY THOUSANDdFIVEdFIVE HUNDREDeTHOUSANDdFORTYdFORTY THOUSANDdFOURdFOUR HUNDREDeTHOUSANDdKARORdKARORANdLAKH
dLAKHANdNINEdNINE HUNDREDeTHOUSANDdNINETYdNINETY THOUSANDdONEdONE HUNDREDeTHOUSANDdPREFIXED EIGHTeFIVEeFOUReNINEeONE
eSEVENeSIXeTHREEeTWOdSEVENdSEVEN HUNDREDeTHOUSANDdSEVENTYdSEVENTY THOUSANDdSIXdSIX HUNDREDeTHOUSANDdSIXTY
dSIXTY THOUSANDdTENdTEN THOUSANDdTHIRTYdTHIRTY THOUSANDdTHREEdTHREE HUNDREDeTHOUSANDdTWENTYdTWENTY THOUSANDdTWO
dTWO HUNDREDeTHOUSANDcPLACEHOLDERcRUPEE MARKaINFINITYaINFINITY NEGATED WITH VERTICAL BARaINFORMATION DESK PERSON
bSEPARATOR FOURcONEcTHREEcTWObSOURCEaINHIBIT ARABIC FORM SHAPINGbSYMMETRIC SWAPPING
aINPUT SYMBOL FOR LATIN CAPITAL LETTERSeLETTERSeSMALL LETTERSdNUMBERSdSYMBOLSaINSCRIPTIONAL PAHLAVI LETTER ALEPHdBETH
dDALETHdGIMELdHEdHETHdKAPHdLAMEDHdMEM-QOPHdNUNdPEdSADHEdSAMEKHdSHINdTAWdTETHdWAW-AYIN-RESHdYODHdZAYINcNUMBER FOURdONE
dONE HUNDREDeTHOUSANDdTENdTHREEdTWENTYdTWObPARTHIAN LETTER ALEPHdAYINdBETHdDALETHdGIMELdHEdHETHdKAPHdLAMEDHdMEMdNUNdPE
dQOPHdRESHdSADHEdSAMEKHdSHINdTAWdTETHdWAWdYODHdZAYINcNUMBER FOURdONEdONE HUNDREDeTHOUSANDdTENdTHREEdTWENTYdTWO
aINSERTION SYMBOLaINTEGRALaINTEGRAL AROUND A POINT OPERATORbAVERAGE WITH SLASHbEXTENSIONbWITH DOUBLE STROKE
cINTERSECTIONcLEFTWARDS ARROW WITH HOOKcOVERBARcTIMES SIGNcUNDERBARcUNIONaINTERCALATEaINTERIOR PRODUCT
aINTERLINEAR ANNOTATION ANCHORcSEPARATORcTERMINATORaINTERLOCKED FEMALE AND MALE SIGNaINTERROBANGaINTERSECTION
aINTERSECTION ABOVE BAR ABOVE UNIONcUNIONbBESIDE AND JOINED WITH INTERSECTIONbWITH DOTcLOGICAL ANDcOVERBAR
aINVERSE BULLETbCHECK MARKbCHECKER BOARD FILLbDOWNWARDS ARROW WITH TIP LEFTWARDSbMEDIUM SHADEbWHITE CIRCLE
aINVERTED EXCLAMATION MARKbINTERROBANGbLAZY SbLOW KAVYKAcKAVYKA WITH KAVYKA ABOVEbOHM SIGNbPENTAGRAMbQUESTION MARK
bUNDERTIEaINVISIBLE PLUSbSEPARATORbTIMESaIZAKAYA LANTERNaJACK-O-LANTERNaJAPANESE BANK SYMBOLbCASTLEbDOLLSbGOBLIN
bINDUSTRIAL STANDARD SYMBOLbOGREbPOST OFFICEbSYMBOL FOR BEGINNERaJARaJAVANESE CONSONANT SIGN CAKRAdKERETdPENGKAL
bDIGIT EIGHTcFIVEcFOURcNINEcONEcSEVENcSIXcTHREEcTWOcZERObLEFT RERENGGANbLETTER AcAIcBAcBA MURDAcCAcCA MURDAcDA
cDA MAHAPRANAcDDAcDDA MAHAPRANAcEcGAcGA MURDAcHAcIcI KAWIcIIcJAcJA MAHAPRANAcKAcKA MURDAdSASAKcLAcMAcNAcNA MURDAcNGA
cNGA LELETdLELET RASWADIcNYAcNYA MURDAcOcPAcPA CEREKdMURDAcRAcRA AGUNGcSAcSA MAHAPRANAdMURDAcTAcTA MURDAcTTA
cTTA MAHAPRANAcUcWAcYAbPADA ADEGcADEG ADEGcANDAPcISEN-ISENcLINGSAcLUHURcLUNGSIcMADYAcPANGKATcPISELEHcTIRTA TUMETES
cWINDUbPANGKONbPANGRANGKEPbRIGHT RERENGGANbSIGN CECAKcCECAK TELUcLAYARcPANYANGGAcWIGNYANbTURNED PADA PISELEH
bVOWEL SIGN DIRGA MUREdPEPETdSUKUdSUKU MENDUTdTALINGdTARUNGdTOLONGdWULUdWULU MELIKaJEANSaJIGSAW PUZZLE PIECEaJOIN
aJOYSTICKaJUGGLINGaJUNOaJUPITERaKAABAaKAITHI ABBREVIATION SIGNbDANDAbDOUBLE DANDAcSECTION MARKbENUMERATION SIGN
bLETTER AcAAcAIcAUcBAcBHAcCAcCHAcDAcDDAcDDDHAcDDHAcDHAcEcGAcGHAcHAcIcIIcJAcJHAcKAcKHAcLAcMAcNAcNGAcNNAcNYAcOcPAcPHAcRA
cRHAcSAcSHAcSSAcTAcTHAcTTAcTTHAcUcUUcVAcYAbNUMBER SIGNcSIGN ABOVEbSECTION MARKbSIGN ANUSVARAcCANDRABINDUcNUKTAcVIRAMA
cVISARGAbVOWEL SIGN AAdAIdAUdEdIdIIdOdUdUUdVOCALIC RaKANGAROOaKANGXI RADICAL AGAINcANDcARRIVEcARROWcAXEcBADGERcBAMBOO
cBEANcBIGcBIRDcBITTERcBLACKcBLOODcBLUEcBOATcBODYcBOLT OF CLOTHcBONEcBOWcBRANCHcBRISTLEcBRUSHcCARTcCAULDRONcCAVEcCHILD
cCITYcCLANcCLAWcCLIFFcCLOTHEScCOLORcCOMPAREcCORPSEcCOVERcCOWcDEATHcDEERcDIPPERcDISHcDISTINGUISHcDIVINATIONcDO NOTcDOG
cDOORcDOTcDOTTED CLIFFdTENTcDOUBLE XcDOWN BOXcDRAGONcDRUMcDRYcEARcEARTHcEATcEIGHTcEMBROIDERYcENCLOSUREcENTERcEVEN
cEVENINGcEYEcFACEcFANGcFATHERcFEATHERcFIELDcFIGHTcFIREcFISHcFLUTEcFLYcFOOTcFRAGRANTcFROGcFURcGATEcGHOSTcGOcGO SLOWLY
cGOLDcGRAINcGRASScHAIRcHALBERDcHALF TREE TRUNKcHANDcHEADcHEARTcHEMPcHIDING ENCLOSUREcHOOKcHORNcHORSEcICEcINCHcINSECT
cJADEcJARcKNIFEcLACKcLAMEcLEAFcLEATHERcLEEKcLEGScLIDcLIFEcLINEcLONGcLONG STRIDEcMANcMEATcMELONcMILLETcMINISTERcMOON
cMORNINGcMORTARcMOUNDcMOUNTAINcMOUTHcNETcNOSEcNOTcOLDcONEcONESELFcOPEN BOXcOPPOSEcPIGcPLOWcPOWERcPRIVATEcPROFOUNDcRAIN
cRAPcRATcREDcRICEcRIGHT OPEN BOXcRIVERcROOFcRUNcSACRIFICIAL WINEcSALTcSAYcSCHOLARcSCRIPTcSEALcSECONDcSEEcSELFcSHEEP
cSHELLcSHOOTcSHORT TAILED BIRDdTHREADcSICKNESScSILKcSKINcSLASHcSLAVEcSLICEcSMALLcSNOUTcSOUNDcSPEARcSPEECHcSPIRITcSPOON
cSPROUTcSQUAREcSTANDcSTEAMcSTEPcSTONEcSTOPcSTOPPINGcSUNcSWEETcTABLEcTALLcTANNED LEATHERcTENcTIGERcTILEcTONGUEcTOOTH
cTRACKcTREEcTRIPODcTURBANcTURTLEcTWOcTWO HANDScUSEcVALLEYcVILLAGEcWALKcWALK ENCLOSUREcWATERcWEAPONcWESTcWHEATcWHITE
cWINDcWINEcWOMANcWORKcWRAPcWRONGcYELLOWaKANNADA AI LENGTH MARKbDIGIT EIGHTcFIVEcFOURcNINEcONEcSEVENcSIXcTHREEcTWOcZERO
bLENGTH MARKbLETTER AcAAcAIcAUcBAcBHAcCAcCHAcDAcDDAcDDHAcDHAcEcEEcFAcGAcGHAcHAcIcIIcJAcJHAcKAcKHAcLAcLLAcLLLAcMAcNA
cNAKAARA POLLUcNGAcNNAcNYAcOcOOcPAcPHAcRAcRRAcSAcSHAcSSAcTAcTHAcTTAcTTHAcUcUUcVAcVOCALIC LdLLdRdRRcYAbSIGN ANUSVARA
cAVAGRAHAcCANDRABINDUcJIHVAMULIYAcNUKTAcSIDDHAMcSPACING CANDRABINDUcUPADHMANIYAcVIRAMAcVISARGAbVOWEL SIGN AAdAIdAUdE
dEEdIdIIdOdOOdUdUUdVOCALIC LeLLeReRRaKATAKANA DIGRAPH KOTObITERATION MARKbLETTER AcARCHAIC EdWUdYEdYIcBAcBEcBIcBOcBU
cDAcDEcDIcDOcDUcEcGAcGEcGIcGOcGUcHAcHEcHIcHOcHUcIcKAcKEcKIcKOcKUcMAcMEcMIcMINNAN NASALIZED TONE-1f2f3f4f5f7f8dTONE-2e3
e4e5e7e8cMOcMUcNcNAcNEcNIcNOcNUcOcPAcPEcPIcPOcPUcRAcREcRIcROcRUcSAcSEcSIcSMALL AdEdHAdHEdHIdHOdHUdIdKAdKEdKUdMUdNdNUdO
dRAdREdRIdROdRUdSIdSUdTOdTUdUdWAdWEdWIdWOdYAdYOdYUcSOcSUcTAcTEcTIcTOcTUcUcVAcVEcVIcVOcVUcWAcWEcWIcWOcYAcYOcYUcZAcZEcZI
cZOcZUbMIDDLE DOTbVOICED ITERATION MARKaKATAKANA-HIRAGANA DOUBLE HYPHENcPROLONGED SOUND MARKcSEMI-VOICED SOUND MARK
cVOICED SOUND MARKaKAYAH LI DIGIT EIGHTdFIVEdFOURdNINEdONEdSEVENdSIXdTHREEdTWOdZEROcLETTER AdBAdCAdDAdGAdHAdHTAdIdKA
dKHAdLAdMAdNAdNGAdNYAdOEdOOdPAdPHAdRAdSAdSHAdTAdTHAdVAdWAdYAdZAcSIGN CWIdSHYAcTONE CALYAdCALYA PLOPHUdPLOPHUcVOWEL E
dEEdOdUdUEaKELVIN SIGNaKEYaKEYBOARDaKEYBOARD AND MOUSEaKEYCAP TENaKHAROSHTHI DIGIT FOURcONEcTHREEcTWO
bFRACTION ONE HALFbLETTER AcBAcBHAcCAcCHAcDAcDDAcDDHAcDHAcGAcGHAcHAcJAcKAcKHAcKKAcLAcMAcNAcNNAcNYAcPAcPHAcRAcSAcSHA
cSSAcTAcTHAcTTAcTTHAcTTTAcTTTHAcVAcVHAcYAcZAbNUMBER ONE HUNDREDdTHOUSANDcTENcTWENTYbPUNCTUATION CIRCLEcCRESCENT BAR
cDANDAcDOTcDOUBLE DANDAcLINEScLOTUScMANGALAMcSMALL CIRCLEbSIGN ANUSVARAcBAR ABOVEcCAUDAcDOT BELOWcDOUBLE RING BELOW
cVISARGAbVIRAMAbVOWEL LENGTH MARKcSIGN EdIdOdUdVOCALIC RaKHITAN SMALL SCRIPT CHARACTER-18B00e18B01e18B02e18B03e18B04
e18B05e18B06e18B07e18B08e18B09e18B0Ae18B0Be18B0Ce18B0De18B0Ee18B0Fe18B10e18B11e18B12e18B13e18B14e18B15e18B16e18B17
e18B18e18B19e18B1Ae18B1Be18B1Ce18B1De18B1Ee18B1Fe18B20e18B21e18B22e18B23e18B24e18B25e18B26e18B27e18B28e18B29e18B2A
e18B2Be18B2Ce18B2De18B2Ee18B2Fe18B30e18B31e18B32e18B33e18B34e18B35e18B36e18B37e18B38e18B39e18B3Ae18B3Be18B3Ce18B3D
e18B3Ee18B3Fe18B40e18B41e18B42e18B43e18B44e18B45e18B46e18B47e18B48e18B49e18B4Ae18B4Be18B4Ce18B4De18B4Ee18B4Fe18B50
e18B51e18B52e18B53e18B54e18B55e18B56e18B57e18B58e18B59e18B5Ae18B5Be18B5Ce18B5De18B5Ee18B5Fe18B60e18B61e18B62e18B63
e18B64e18B65e18B66e18B67e18B68e18B69e18B6Ae18B6Be18B6Ce18B6De18B6Ee18B6Fe18B70e18B71e18B72e18B73e18B74e18B75e18B76
e18B77e18B78e18B79e18B7Ae18B7Be18B7Ce18B7De18B7Ee18B7Fe18B80e18B81e18B82e18B83e18B84e18B85e18B86e18B87e18B88e18B89
e18B8Ae18B8Be18B8Ce18B8De18B8Ee18B8Fe18B90e18B91e18B92e18B93e18B94e18B95e18B96e18B97e18B98e18B99e18B9Ae18B9Be18B9C
e18B9De18B9Ee18B9Fe18BA0e18BA1e18BA2e18BA3e18BA4e18BA5e18BA6e18BA7e18BA8e18BA9e18BAAe18BABe18BACe18BADe18BAEe18BAF
e18BB0e18BB1e18BB2e18BB3e18BB4e18BB5e18BB6e18BB7e18BB8e18BB9e18BBAe18BBBe18BBCe18BBDe18BBEe18BBFe18BC0e18BC1e18BC2
e18BC3e18BC4e18BC5e18BC6e18BC7e18BC8e18BC9e18BCAe18BCBe18BCCe18BCDe18BCEe18BCFe18BD0e18BD1e18BD2e18BD3e18BD4e18BD5
e18BD6e18BD7e18BD8e18BD9e18BDAe18BDBe18BDCe18BDDe18BDEe18BDFe18BE0e18BE1e18BE2e18BE3e18BE4e18BE5e18BE6e18BE7e18BE8
e18BE9e18BEAe18BEBe18BECe18BEDe18BEEe18BEFe18BF0e18BF1e18BF2e18BF3e18BF4e18BF5e18BF6e18BF7e18BF8e18BF9e18BFAe18BFB
e18BFCe18BFDe18BFEe18BFFe18C00e18C01e18C02e18C03e18C04e18C05e18C06e18C07e18C08e18C09e18C0Ae18C0Be18C0Ce18C0De18C0E
e18C0Fe18C10e18C11e18C12e18C13e18C14e18C15e18C16e18C17e18C18e18C19e18C1Ae18C1Be18C1Ce18C1De18C1Ee18C1Fe18C20e18C21
e18C22e18C23e18C24e18C25e18C26e18C27e18C28e18C29e18C2Ae18C2Be18C2Ce18C2De18C2Ee18C2Fe18C30e18C31e18C32e18C33e18C34
e18C35e18C36e18C37e18C38e18C39e18C3Ae18C3Be18C3Ce18C3De18C3Ee18C3Fe18C40e18C41e18C42e18C43e18C44e18C45e18C46e18C47
e18C48e18C49e18C4Ae18C4Be18C4Ce18C4De18C4Ee18C4Fe18C50e18C51e18C52e18C53e18C54e18C55e18C56e18C57e18C58e18C59e18C5A
e18C5Be18C5Ce18C5De18C5Ee18C5Fe18C60e18C61e18C62e18C63e18C64e18C65e18C66e18C67e18C68e18C69e18C6Ae18C6Be18C6Ce18C6D
e18C6Ee18C6Fe18C70e18C71e18C72e18C73e18C74e18C75e18C76e18C77e18C78e18C79e18C7Ae18C7Be18C7Ce18C7De18C7Ee18C7Fe18C80
e18C81e18C82e18C83e18C84e18C85e18C86e18C87e18C88e18C89e18C8Ae18C8Be18C8Ce18C8De18C8Ee18C8Fe18C90e18C91e18C92e18C93
e18C94e18C95e18C96e18C97e18C98e18C99e18C9Ae18C9Be18C9Ce18C9De18C9Ee18C9Fe18CA0e18CA1e18CA2e18CA3e18CA4e18CA5e18CA6
e18CA7e18CA8e18CA9e18CAAe18CABe18CACe18CADe18CAEe18CAFe18CB0e18CB1e18CB2e18CB3e18CB4e18CB5e18CB6e18CB7e18CB8e18CB9
e18CBAe18CBBe18CBCe18CBDe18CBEe18CBFe18CC0e18CC1e18CC2e18CC3e18CC4e18CC5e18CC6e18CC7e18CC8e18CC9e18CCAe18CCBe18CCC
e18CCDe18CCEe18CCFe18CD0e18CD1e18CD2e18CD3e18CD4e18CD5dFILLERaKHMER CURRENCY SYMBOL RIELbDIGIT EIGHTcFIVEcFOURcNINE
cONEcSEVENcSIXcTHREEcTWOcZERObINDEPENDENT VOWEL LYdLYYdQAAdQAIdQAQdQAUdQEdQIdQIIdQOO TYPE ONEfTWOdQUdQUKdQUUdQUUVdRY
dRYYbLETTER BAcCAcCHAcCHOcCOcDAcDOcHAcKAcKHAcKHOcKOcLAcLOcMOcNGOcNNOcNOcNYOcPHAcPHOcPOcQAcROcSAcSHAcSSOcTAcTHAcTHOcTO
cTTHAcTTHOcVOcYObSIGN AHSDAcATTHACANcAVAKRAHASANYAcBANTOCcBARIYOOSANcBATHAMASATcBEYYALcCAMNUC PII KUUHcCOENGcKAKABAT
cKHANcKOOMUUTcLEK TOOcMUUSIKATOANcNIKAHITcPHNAEK MUANcREAHMUKcROBATcSAMYOK SANNYAcTOANDAKHIATcTRIISAPcVIRIAM
cYUUKALEAPINTUbSYMBOL BEI KOETdROCcBUON KOETdROCcDAP KOETdROCcDAP-BEI KOETeROCdBUON KOETeROCdMUOY KOETeROCdPII KOET
eROCdPRAM KOETeROCcLEK ATTAK BEIeBUONeMUOYePIIePRAMePRAM-BEIfBUONfMUOYfPIIeSONcMUOY KOETdROCcPATHAMASATcPII KOETdROC
cPRAM KOETdROCcPRAM-BEI KOETeROCdBUON KOETeROCdMUOY KOETeROCdPII KOETeROCcTUTEYASATbVOWEL INHERENT AAdAQcSIGN AAdAEdAI
dAUdEdIdIEdIIdOEdOOdUdUAdUUdYdYAdYYaKHOJKI ABBREVIATION SIGNbDANDAbDOUBLE DANDAcSECTION MARKbLETTER AcAAcAIcAUcBAcBBA
cBHAcCAcCHAcDAcDDAcDDDAcDDHAcDHAcEcGAcGGAcGHAcHAcIcJAcJJAcKAcKHAcLAcLLAcMAcNAcNGAcNNAcNYAcOcPAcPHAcRAcSAcTAcTHAcTTA
cTTHAcUcVAcYAbSECTION MARKbSIGN ANUSVARAcNUKTAcSHADDAcSUKUNcVIRAMAbVOWEL SIGN AAdAIdAUdEdIdIIdOdUbWORD SEPARATOR
aKHUDAWADI DIGIT EIGHTcFIVEcFOURcNINEcONEcSEVENcSIXcTHREEcTWOcZERObLETTER AcAAcAIcAUcBAcBBAcBHAcCAcCHAcDAcDDAcDDDA
cDDHAcDHAcEcGAcGGAcGHAcHAcIcIIcJAcJHAcJJAcKAcKHAcLAcMAcNAcNGAcNNAcNYAcOcPAcPHAcRAcRRAcSAcSHAcTAcTHAcTTAcTTHAcUcUUcVA
cYAbSIGN ANUSVARAcNUKTAcVIRAMAbVOWEL SIGN AAdAIdAUdEdIdIIdOdUdUUaKIMONOaKIP SIGNaKISSaKISS MARK
aKISSING CAT FACE WITH CLOSED EYESbFACEbFACE WITH CLOSED EYESdSMILING EYESaKITEaKIWIFRUITaKNEELING PERSONaKNOTaKOALA
aKOREAN STANDARD SYMBOLaKRONOSaL B BAR SYMBOLaLAB COATaLABELaLACROSSE STICK AND BALLaLADDERaLADY BEETLEaLANGUAGE TAG
aLAO CANCELLATION MARKbDIGIT EIGHTcFIVEcFOURcNINEcONEcSEVENcSIXcTHREEcTWOcZERObELLIPSISbHO MOcNObKO LAbLETTER BOcCOcDO
cFO FAYdFONdSUNGdTAMcHO SUNGdTAMcKHMU GOdNYOcKHO SUNGdTAMcKOcLOcLO LINGdLOOTcMOcNGOcNOcNYOcOcPALI BHAdCHAdDDAdDDHAdDHA
dGHAdJHAdLLAdNNAdNYAdTTAdTTHAcPHO SUNGdTAMcPOcROcSANSKRIT SHAdSSAcSO SUNGdTAMcTHO SUNGdTAMcTOcWOcYObNIGGAHITA
bSEMIVOWEL SIGN LOdNYObSIGN PALI VIRAMAbTONE MAI CATAWAdEKdTHOdTIbVOWEL SIGN AdAAdAIdAMdAYdEdEIdIdIIdMAI KANeKONdOdU
dUUdYdYYaLARGE BLUE CIRCLEcDIAMONDcSQUAREbBROWN CIRCLEcSQUAREbCIRCLEbDOWN TACKbGREEN CIRCLEcSQUARE
bLEFT TRIANGLE OPERATORbONE DOT OVER TWO DOTS PUNCTUATIONcRING OVER TWO RINGS PUNCTUATIONbORANGE CIRCLEcDIAMONDcSQUARE
bPURPLE CIRCLEcSQUAREbRED CIRCLEcSQUAREbTRIPLE VERTICAL BAR OPERATORbTWO DOTS OVER ONE DOT PUNCTUATION
cRINGS OVER ONE RING PUNCTUATIONbUP TACKbYELLOW CIRCLEcSQUAREaLARGER THANbTHAN OR EQUAL TOaLARI SIGNaLAST QUARTER MOON
cMOON SYMBOLdWITH FACEaLATIN CAPITAL LETTER AdA WITH ACUTEfBREVEfBREVE AND ACUTEhDOT BELOWhGRAVEhHOOK ABOVEhTILDE
fCARONfCIRCUMFLEXfCIRCUMFLEX AND ACUTEhDOT BELOWhGRAVEhHOOK ABOVEhTILDEfDIAERESISfDIAERESIS AND MACRONfDOT ABOVE
gABOVE AND MACRONgBELOWfDOUBLE GRAVEfGRAVEfHOOK ABOVEfINVERTED BREVEfMACRONfOGONEKfRING ABOVEgABOVE AND ACUTEgBELOW
fSTROKEfTILDEdAAdAEdAE WITH ACUTEfMACRONdAFRICAN DdALPHAdANGLICANA WdAOdAUdAVdAV WITH HORIZONTAL BARdAYdB
dB WITH DOT ABOVEgBELOWfFLOURISHfHOOKfLINE BELOWfSTROKEfTOPBARdBETAdBROKEN LdCdC WITH ACUTEfBARfCARONfCEDILLA
fCEDILLA AND ACUTEfCIRCUMFLEXfDOT ABOVEfHOOKfPALATAL HOOKfSTROKEdCHIdCLOSED INSULAR GdCONdCUATRILLO
dCUATRILLO WITH COMMAdDdD WITH CARONfCEDILLAfCIRCUMFLEX BELOWfDOT ABOVEgBELOWfHOOKfLINE BELOWfSHORT STROKE OVERLAY
fSMALL LETTER ZhZ WITH CARONfSTROKEfTOPBARdDZdDZ WITH CARONdEdE WITH ACUTEfBREVEfCARONfCEDILLAfCEDILLA AND BREVE
fCIRCUMFLEXfCIRCUMFLEX AND ACUTEhDOT BELOWhGRAVEhHOOK ABOVEhTILDEgBELOWfDIAERESISfDOT ABOVEgBELOWfDOUBLE GRAVEfGRAVE
fHOOK ABOVEfINVERTED BREVEfMACRONfMACRON AND ACUTEhGRAVEfOGONEKfSTROKEfTILDEfTILDE BELOWdEGYPTOLOGICAL AINeALEFdENG
dESHdETdETHdEZHdEZH REVERSEDeWITH CARONdFdF WITH DOT ABOVEfHOOKfSTROKEdGdG WITH ACUTEfBREVEfCARONfCEDILLAfCIRCUMFLEX
fDOT ABOVEfHOOKfMACRONfOBLIQUE STROKEfSTROKEdGAMMAdGHAdGLOTTAL AeIeSTOPeUdHdH WITH BREVE BELOWfCARONfCEDILLA
fCIRCUMFLEXfDESCENDERfDIAERESISfDOT ABOVEgBELOWfHOOKfSTROKEdHALF HdHENGdHWAIRdIdI WITH ACUTEfBREVEfCARONfCIRCUMFLEX
fDIAERESISfDIAERESIS AND ACUTEfDOT ABOVEgBELOWfDOUBLE GRAVEfGRAVEfHOOK ABOVEfINVERTED BREVEfMACRONfOGONEKfSTROKEfTILDE
fTILDE BELOWdINSULAR DeFeGeReSeTdIOTAdISdJdJ WITH CIRCUMFLEXfCROSSED-TAILfSTROKEdKdK WITH ACUTEfCARONfCEDILLA
fDESCENDERfDIAGONAL STROKEfDOT BELOWfHOOKfLINE BELOWfOBLIQUE STROKEfSTROKEfSTROKE AND DIAGONAL STROKEdLdL WITH ACUTE
fBARfBELTfCARONfCEDILLAfCIRCUMFLEX BELOWfDOT BELOWgBELOW AND MACRONfDOUBLE BARfHIGH STROKEfLINE BELOWfMIDDLE DOTgTILDE
fSMALL LETTER JfSTROKEdLJdMdM WITH ACUTEfDOT ABOVEgBELOWfHOOKdMIDDLE SCOTS SdMIDDLE-WELSH LLfVdNdN WITH ACUTEfCARON
fCEDILLAfCIRCUMFLEX BELOWfDESCENDERfDOT ABOVEgBELOWfGRAVEfLEFT HOOKfLINE BELOWfLONG RIGHT LEGfOBLIQUE STROKE
fSMALL LETTER JfTILDEdNJdOdO WITH ACUTEfBREVEfCARONfCIRCUMFLEXfCIRCUMFLEX AND ACUTEhDOT BELOWhGRAVEhHOOK ABOVEhTILDE
fDIAERESISfDIAERESIS AND MACRONfDOT ABOVEgABOVE AND MACRONgBELOWfDOUBLE ACUTEgGRAVEfGRAVEfHOOK ABOVEfHORN
fHORN AND ACUTEhDOT BELOWhGRAVEhHOOK ABOVEhTILDEfINVERTED BREVEfLONG STROKE OVERLAYfLOOPfMACRONfMACRON AND ACUTEhGRAVE
fMIDDLE TILDEfOGONEKfOGONEK AND MACRONfSTROKEfSTROKE AND ACUTEfTILDEfTILDE AND ACUTEhDIAERESIShMACRONdOIdOLD POLISH O
dOMEGAdOOdOPEN EeOdOUdPdP WITH ACUTEfDOT ABOVEfFLOURISHfHOOKfSQUIRREL TAILfSTROKEfSTROKE THROUGH DESCENDERdQ
dQ WITH DIAGONAL STROKEfSTROKE THROUGH DESCENDERdRdR ROTUNDAeWITH ACUTEfCARONfCEDILLAfDOT ABOVEgBELOWgBELOW AND MACRON
fDOUBLE GRAVEfINVERTED BREVEfLINE BELOWfOBLIQUE STROKEfSTROKEfTAILdREVERSED C WITH DOTeEeHALF HeOPEN EdRUM ROTUNDAdS
dS WITH ACUTEfACUTE AND DOT ABOVEfCARONfCARON AND DOT ABOVEfCEDILLAfCIRCUMFLEXfCOMMA BELOWfDOT ABOVEgBELOW
gBELOW AND DOT ABOVEfHOOKfOBLIQUE STROKEfSHORT STROKE OVERLAYfSWASH TAILdSALTILLOdSCHWAdSCRIPT GdSHARP SdSIGMOID S
dSMALL CAPITAL IeQ WITH HOOK TAILdTdT WITH CARONfCEDILLAfCIRCUMFLEX BELOWfCOMMA BELOWfDIAGONAL STROKEfDOT ABOVEgBELOW
fHOOKfLINE BELOWfRETROFLEX HOOKfSTROKEdTHORNdTHORN WITH STROKEfSTROKE THROUGH DESCENDERdTONE FIVEeSIXeTWOdTRESILLO
dTURNED AeALPHAeHeINSULAR GeKeLeMeTeVdTZdUdU BAReWITH ACUTEfBREVEfCARONfCIRCUMFLEXfCIRCUMFLEX BELOWfDIAERESIS
fDIAERESIS AND ACUTEhCARONhGRAVEhMACRONgBELOWfDOT BELOWfDOUBLE ACUTEgGRAVEfGRAVEfHOOK ABOVEfHORNfHORN AND ACUTE
hDOT BELOWhGRAVEhHOOK ABOVEhTILDEfINVERTED BREVEfMACRONfMACRON AND DIAERESISfOGONEKfRING ABOVEfSTROKEfTILDE
fTILDE AND ACUTEgBELOWdUPSILONdVdV WITH DIAGONAL STROKEfDOT BELOWfHOOKfTILDEdVENDdVISIGOTHIC ZdVOLAPUK AEeOEeUEdVYdW
dW WITH ACUTEfCIRCUMFLEXfDIAERESISfDOT ABOVEgBELOWfGRAVEfHOOKdWYNNdXdX WITH DIAERESISfDOT ABOVEdYdY WITH ACUTE
fCIRCUMFLEXfDIAERESISfDOT ABOVEgBELOWfGRAVEfHOOKfHOOK ABOVEfLOOPfMACRONfSTROKEfTILDEdYOGHdZdZ WITH ACUTEfCARON
fCIRCUMFLEXfDESCENDERfDOT ABOVEgBELOWfHOOKfLINE BELOWfPALATAL HOOKfSTROKEfSWASH TAILcLIGATURE IJdOEbCROSS
bEPIGRAPHIC LETTER ARCHAIC MdI LONGAdINVERTED MdREVERSED FePdSIDEWAYS IbLETTER AINcALVEOLAR CLICKcBIDENTAL PERCUSSIVE
cBILABIAL CLICKdPERCUSSIVEcDENTAL CLICKcGLOTTAL STOPdSTOP WITH STROKEcINVERTED GLOTTAL STOPeSTOP WITH CURLgSTROKE
cLATERAL CLICKcPHARYNGEAL VOICED FRICATIVEcRETROFLEX CLICKdCLICK WITH RETROFLEX HOOKcREVERSED ESH LOOP
dGLOTTAL STOP WITH STROKEcSINOLOGICAL DOTcSMALL CAPITAL AeAEeBeBARRED BeCeDeEeETHeEZHeFeGeG WITH HOOKeHeIeINVERTED ReJ
eKeLeL WITH BELTgSTROKEeMeNeOeOEeOPEN OeOUePeQeReR WITH RIGHT LEGeREVERSED NfReRUMeSeTeTURNED EfGfKfMfReUeVeWeYeZ
cSTRETCHED CdC WITH CURLcTWO WITH STROKEcVOICED LARYNGEAL SPIRANTcWYNNcYRbSMALL CAPITAL LETTER I WITH STROKE
eU WITH STROKEcLETTER AdA REVERSED-SCHWAeWITH ACUTEfBREVEfBREVE AND ACUTEhDOT BELOWhGRAVEhHOOK ABOVEhTILDEfCARON
fCIRCUMFLEXfCIRCUMFLEX AND ACUTEhDOT BELOWhGRAVEhHOOK ABOVEhTILDEfDIAERESISfDIAERESIS AND MACRONfDOT ABOVE
gABOVE AND MACRONgBELOWfDOUBLE GRAVEfGRAVEfHOOK ABOVEfINVERTED BREVEfMACRONfOGONEKfRETROFLEX HOOKfRIGHT HALF RING
fRING ABOVEgABOVE AND ACUTEgBELOWfSTROKEfTILDEdAAdAEdAE WITH ACUTEfMACRONdALPHAdALPHA WITH RETROFLEX HOOKdANGLICANA W
dAOdAUdAVdAV WITH HORIZONTAL BARdAYdBdB WITH DOT ABOVEgBELOWfFLOURISHfHOOKfLINE BELOWfMIDDLE TILDEfPALATAL HOOKfSTROKE
fTOPBARdBARRED ALPHAeEeOdBASELINE ESHdBETAdBLACKLETTER EeOeO WITH STROKEdBOTTOM HALF OdBROKEN LdCdC WITH ACUTEfBAR
fCARONfCEDILLAfCEDILLA AND ACUTEfCIRCUMFLEXfCURLfDOT ABOVEfHOOKfPALATAL HOOKfRETROFLEX HOOKfSTROKEdCHI
dCHI WITH LOW LEFT SERIFgRIGHT RINGdCLOSED INSULAR GeOMEGAeOPEN EeREVERSED OPEN EdCONdCUATRILLOdCUATRILLO WITH COMMAdD
dD WITH CARONfCEDILLAfCIRCUMFLEX BELOWfCURLfDOT ABOVEgBELOWfHOOKfHOOK AND TAILfLINE BELOWfMIDDLE TILDEfPALATAL HOOK
fSHORT STROKE OVERLAYfSTROKEfTAILfTOPBARdDB DIGRAPHdDELTAdDEZH DIGRAPHeDIGRAPH WITH PALATAL HOOKgRETROFLEX HOOK
dDOTLESS IeJeJ WITH STROKEgSTROKE AND HOOKdDOUBLE ReR WITH CROSSED-TAILeTHORNeWYNNdDUMdDZdDZ DIGRAPHeDIGRAPH WITH CURL
gRETROFLEX HOOKeWITH CARONdEdE WITH ACUTEfBREVEfCARONfCEDILLAfCEDILLA AND BREVEfCIRCUMFLEXfCIRCUMFLEX AND ACUTE
hDOT BELOWhGRAVEhHOOK ABOVEhTILDEgBELOWfDIAERESISfDOT ABOVEgBELOWfDOUBLE GRAVEfFLOURISHfGRAVEfHOOK ABOVE
fINVERTED BREVEfMACRONfMACRON AND ACUTEhGRAVEfNOTCHfOGONEKfRETROFLEX HOOKfSTROKEfTILDEfTILDE BELOWdEGYPTOLOGICAL AIN
eALEFdENGdENG WITH CROSSED-TAILfPALATAL HOOKdESHdESH WITH CURLfDOUBLE BARgBAR AND CURLfPALATAL HOOKfRETROFLEX HOOKdET
dETHdEZHdEZH REVERSEDeWITH CARONfCURLfPALATAL HOOKfRETROFLEX HOOKfTAILdFdF WITH DOT ABOVEfHOOKfMIDDLE TILDE
fPALATAL HOOKfSTROKEdFENG DIGRAPHeDIGRAPH WITH TRILLdGdG WITH ACUTEfBREVEfCARONfCEDILLAfCIRCUMFLEXfDOT ABOVEfHOOK
fMACRONfOBLIQUE STROKEfPALATAL HOOKfSTROKEdGAMMAdGHAdGLOTTAL AeIeSTOPeUdHdH WITH BREVE BELOWfCARONfCEDILLAfCIRCUMFLEX
fDESCENDERfDIAERESISfDOT ABOVEgBELOWfHOOKfLINE BELOWfPALATAL HOOKfSTROKEdHALF HdHENGdHENG WITH HOOKdHVdIdI WITH ACUTE
fBREVEfCARONfCIRCUMFLEXfDIAERESISfDIAERESIS AND ACUTEfDOT BELOWfDOUBLE GRAVEfGRAVEfHOOK ABOVEfINVERTED BREVEfMACRON
fOGONEKfRETROFLEX HOOKfSTROKEfSTROKE AND RETROFLEX HOOKfTILDEfTILDE BELOWdINSULAR DeFeGeReSeTdINVERTED ALPHAeOEdIOTA
dIOTA WITH STROKEdIOTIFIED EdISdJdJ WITH CARONfCIRCUMFLEXfCROSSED-TAILfSTROKEdKdK WITH ACUTEfCARONfCEDILLAfDESCENDER
fDIAGONAL STROKEfDOT BELOWfHOOKfLINE BELOWfOBLIQUE STROKEfPALATAL HOOKfSTROKEfSTROKE AND DIAGONAL STROKEdKRAdL
dL WITH ACUTEfBARfBELTfBELT AND PALATAL HOOKfCARONfCEDILLAfCIRCUMFLEX BELOWfCURLfDOT BELOWgBELOW AND MACRONfDOUBLE BAR
gMIDDLE TILDEfFISHHOOKfHIGH STROKEfINVERTED LAZY SfLINE BELOWfMIDDLE DOTgRINGgTILDEfPALATAL HOOKfRETROFLEX HOOK
gHOOK AND BELTfSTROKEdLAMBDA WITH STROKEdLENIS FdLEZHdLEZH WITH RETROFLEX HOOKdLJdLONG SeS WITH DIAGONAL STROKE
gDOT ABOVEgHIGH STROKEdLS DIGRAPHdLUMdLZ DIGRAPHdMdM WITH ACUTEfCROSSED-TAILfDOT ABOVEgBELOWfHOOKfMIDDLE TILDE
fPALATAL HOOKdMIDDLE SCOTS SdMIDDLE-WELSH LLfVdMUMdNdN PRECEDED BY APOSTROPHEeWITH ACUTEfCARONfCEDILLA
fCIRCUMFLEX BELOWfCROSSED-TAILfCURLfDESCENDERfDOT ABOVEgBELOWfGRAVEfLEFT HOOKfLINE BELOWfLONG RIGHT LEGfMIDDLE TILDE
fOBLIQUE STROKEfPALATAL HOOKfRETROFLEX HOOKfTILDEdNJdNUMdOdO WITH ACUTEfBREVEfCARONfCIRCUMFLEXfCIRCUMFLEX AND ACUTE
hDOT BELOWhGRAVEhHOOK ABOVEhTILDEfDIAERESISfDIAERESIS AND MACRONfDOT ABOVEgABOVE AND MACRONgBELOWfDOUBLE ACUTEgGRAVE
fGRAVEfHOOK ABOVEfHORNfHORN AND ACUTEhDOT BELOWhGRAVEhHOOK ABOVEhTILDEfINVERTED BREVEfLONG STROKE OVERLAYfLOOP
fLOW RING INSIDEfMACRONfMACRON AND ACUTEhGRAVEfOGONEKfOGONEK AND MACRONfRETROFLEX HOOKfSTROKEfSTROKE AND ACUTEfTILDE
fTILDE AND ACUTEhDIAERESIShMACRONdOIdOLD POLISH OdOMEGAdOOdOPEN EeE WITH RETROFLEX HOOKeOeO WITH RETROFLEX HOOKgSTROKE
eOEdOUdPdP WITH ACUTEfDOT ABOVEfFLOURISHfHOOKfMIDDLE TILDEfPALATAL HOOKfSQUIRREL TAILfSTROKEfSTROKE THROUGH DESCENDER
dPHIdQdQ WITH DIAGONAL STROKEfHOOKfHOOK TAILfSTROKE THROUGH DESCENDERdQP DIGRAPHdRdR ROTUNDAeWITH ACUTEfCARONfCEDILLA
fCROSSED-TAILfDOT ABOVEgBELOWgBELOW AND MACRONfDOUBLE GRAVEfFISHHOOKfFISHHOOK AND MIDDLE TILDEhPALATAL HOOK
fINVERTED BREVEfLINE BELOWfLONG LEGfMIDDLE TILDEfOBLIQUE STROKEfPALATAL HOOKfSTROKEfTAILeWITHOUT HANDLEdRAMS HORN
dREVERSED CeC WITH DOTeEeENGeHALF HeKeOPEN EfE WITH HOOKhRETROFLEX HOOKeR WITH FISHHOOKeSCRIPT GdRUMdRUM ROTUNDAdS
dS WITH ACUTEfACUTE AND DOT ABOVEfCARONfCARON AND DOT ABOVEfCEDILLAfCIRCUMFLEXfCOMMA BELOWfCURLfDOT ABOVEgBELOW
gBELOW AND DOT ABOVEfHOOKfMIDDLE TILDEfOBLIQUE STROKEfPALATAL HOOKfSHORT STROKE OVERLAYfSWASH TAILdSAKHA YATdSALTILLO
dSCHWAdSCHWA WITH HOOKfRETROFLEX HOOKdSCRIPT GeG WITH CROSSED-TAILeReR WITH RINGdSHARP SdSIDEWAYS DIAERESIZED UeO
eO WITH STROKEeOPEN OeTURNED MeUdSIGMOID SdSQUAT REVERSED ESHdSTIRRUP RdTdT WITH CARONfCEDILLAfCIRCUMFLEX BELOW
fCOMMA BELOWfCURLfDIAERESISfDIAGONAL STROKEfDOT ABOVEgBELOWfHOOKfHOOK AND RETROFLEX HOOKfLINE BELOWfMIDDLE TILDE
fPALATAL HOOKfRETROFLEX HOOKfSTROKEdTAILLESS PHIdTC DIGRAPH WITH CURLdTESH DIGRAPHeDIGRAPH WITH PALATAL HOOK
gRETROFLEX HOOKdTH WITH STRIKETHROUGHdTHORNdTHORN WITH STROKEfSTROKE THROUGH DESCENDERdTONE FIVEeSIXeTWOdTOP HALF O
dTRESILLOdTS DIGRAPHeDIGRAPH WITH RETROFLEX HOOKdTUMdTURNED AeAEeALPHAeDELTAeEeGeHeH WITH FISHHOOKgFISHHOOK AND TAILeI
eINSULAR GeKeLeMeM WITH LONG LEGeO OPEN-OgO WITH STROKEeOEeOE WITH HORIZONTAL STROKEgSTROKEeOPEN EeReR WITH HOOK
gLONG LEGhLEG AND RETROFLEX HOOKgMIDDLE TILDEgPALATAL HOOKgTAILeTeT WITH CURLeUIeVeWeYeY WITH BELTdTZdUdU BAR
eBAR WITH SHORT RIGHT LEGeWITH ACUTEfBREVEfCARONfCIRCUMFLEXfCIRCUMFLEX BELOWfDIAERESISfDIAERESIS AND ACUTEhCARONhGRAVE
hMACRONgBELOWfDOT BELOWfDOUBLE ACUTEgGRAVEfGRAVEfHOOK ABOVEfHORNfHORN AND ACUTEhDOT BELOWhGRAVEhHOOK ABOVEhTILDE
fINVERTED BREVEfLEFT HOOKfMACRONfMACRON AND DIAERESISfOGONEKfRETROFLEX HOOKfRING ABOVEfSHORT RIGHT LEGfSTROKEfTILDE
fTILDE AND ACUTEgBELOWdUEdUIdUMdUOdUPSILONdUPSILON WITH STROKEdVdV WITH CURLfDIAGONAL STROKEfDOT BELOWfHOOK
fPALATAL HOOKfRIGHT HOOKfTILDEdVENDdVISIGOTHIC ZdVOLAPUK AEeOEeUEdVYdWdW WITH ACUTEfCIRCUMFLEXfDIAERESISfDOT ABOVE
gBELOWfGRAVEfHOOKfRING ABOVEdXdX WITH DIAERESISfDOT ABOVEfLONG LEFT LEGhLEG AND LOW RIGHT RINGiWITH SERIF
fLOW RIGHT RINGfPALATAL HOOKdYdY WITH ACUTEfCIRCUMFLEXfDIAERESISfDOT ABOVEgBELOWfGRAVEfHOOKfHOOK ABOVEfLOOPfMACRON
fRING ABOVEfSHORT RIGHT LEGfSTROKEfTILDEdYOGHdZdZ WITH ACUTEfCARONfCIRCUMFLEXfCURLfDESCENDERfDOT ABOVEgBELOWfHOOK
fLINE BELOWfMIDDLE TILDEfPALATAL HOOKfRETROFLEX HOOKfSTROKEfSWASH TAILcLIGATURE FFdFFIdFFLdFIdFLdIJdLONG S TdOEdST
bSUBSCRIPT SMALL LETTER AeEeHeIeJeKeLeMeNeOePeReSeSCHWAeTeUeVeXaLEAF FLUTTERING IN WINDaLEAFY GREENaLEDGER
aLEFT AND LOWER AND RIGHT TRIANGULAR THREE QUARTERS BLOCKdONE EIGHTH BLOCKcRIGHT DOUBLE TURNSTILEdTACK
dTRIANGULAR HALF BLOCKcUPPER AND RIGHT TRIANGULAR THREE QUARTERS BLOCKdONE EIGHTH BLOCKbANGER BUBBLEbANGLE BRACKET
cBRACKET WITH DOTbARC LESS-THAN BRACKETbARROW WITH CIRCLED PLUSdSMALL CIRCLEbBARB DOWN RIGHT BARB DOWN HARPOON
fUP HARPOONcUP RIGHT BARB DOWN HARPOONfUP HARPOONbBLACK LENTICULAR BRACKETcTORTOISE SHELL BRACKETbCEILINGbCLOSED ENTRY
bCORNER BRACKETbCURLY BRACKETcBRACKET LOWER HOOKdMIDDLE PIECEdUPPER HOOKbDOTTED SUBSTITUTION BRACKET
bDOUBLE ANGLE BRACKETcPARENTHESIScQUOTATION MARKcWIGGLY FENCEbFISH TAILbFIVE EIGHTHS BLOCKbFLOORbHALF BLACK CIRCLE
dSTARcBLOCKcCIRCLEcCIRCLE WITH DOTeFOUR DOTSeTHREE DOTSeTWO DOTScFOLDERcINVERSE MEDIUM SHADE AND RIGHT HALF BLOCK
cMEDIUM SHADEcRUNNING MANbHAND TELEPHONE RECEIVERbLOW PARAPHRASE BRACKETbLUGGAGEbMULTIMAP
bNORMAL FACTOR SEMIDIRECT PRODUCTbONE EIGHTH BLOCKcQUARTER BLOCKbOUTER JOINbPARENTHESISbPARENTHESIS EXTENSION
cLOWER HOOKcUPPER HOOKbRAISED OMISSION BRACKETbRIGHT ARROWcARROW THROUGH SMALL CIRCLEdWITH DOUBLE VERTICAL STROKE
eSTROKEeVERTICAL STROKEcBLACK ARROWcDOUBLE ARROWdARROW WITH STROKEfVERTICAL STROKEcOPEN-HEADED ARROWcSANS-SERIF ARROW
cTRIANGLE-HEADED ARROWcWAVE ARROWcWHITE ARROWbS-SHAPED BAG DELIMITERbSEMIDIRECT PRODUCTbSEVEN EIGHTHS BLOCK
bSIDEWAYS U BRACKETbSINGLE QUOTATION MARKbSPEECH BUBBLEbSQUARE BRACKETcBRACKET EXTENSIONdLOWER CORNERdUPPER CORNER
dWITH DOUBLE STROKEeQUILLeSTROKEeTICK IN BOTTOM CORNERgTOP CORNEReUNDERBARbSUBSTITUTION BRACKETbTACK
bTHIRD WHITE RIGHT POINTING INDEXbTHOUGHT BUBBLEbTHREE EIGHTHS BLOCKcQUARTERS BLOCKbTORTOISE SHELL BRACKET
bTRANSPOSITION BRACKETbTRIANGLE BESIDE VERTICAL BARbTRIANGULAR ONE QUARTER BLOCKbVERTICAL BAR WITH QUILLcBOX LINE
bWHITE CORNER BRACKETcCURLY BRACKETcLENTICULAR BRACKETcPARENTHESIScSQUARE BRACKETcTORTOISE SHELL BRACKETbWIGGLY FENCE
bWRITING HANDaLEFT-FACING ARMENIAN ETERNITY SIGNcFISTcSVASTI SIGNdSIGN WITH DOTSbHANDED INTERLACED PENTAGRAM
bPOINTING ANGLE BRACKETcCURVED ANGLE BRACKETcDOUBLE ANGLE QUOTATION MARKcMAGNIFYING GLASS
bSHADED WHITE RIGHTWARDS ARROWbSIDE ARC ANTICLOCKWISE ARROWbTO-RIGHT EMBEDDINGdISOLATEdMARKdOVERRIDEaLEFTWARDS ARROW
bARROW ABOVE ALMOST EQUAL TOdREVERSE ALMOST EQUAL TOeTILDE OPERATORdSHORT RIGHTWARDS ARROWdTILDE OPERATOR
cAND UPPER AND LOWER ONE EIGHTH BLOCKcFROM BARdBAR TO BLACK DIAMONDcOVER RIGHTWARDS ARROWcTHROUGH LESS-THANdSUBSETdX
cTO BARdBAR OVER RIGHTWARDS ARROW TO BARdBLACK DIAMONDcWITH DOTTED STEMdDOUBLE VERTICAL STROKEdEQUILATERAL ARROWHEAD
dHOOKdLARGE TRIANGLE ARROWHEADdLOOPdMEDIUM TRIANGLE ARROWHEADdNOTCHED TAILdPLUS BELOWdSMALL EQUILATERAL ARROWHEAD
eTRIANGLE ARROWHEADdSTROKEdTAILdTAIL WITH DOUBLE VERTICAL STROKEfVERTICAL STROKEdTIP DOWNWARDSeUPWARDSdVERTICAL STROKE
bARROW-TAILbBACK-TILTED SHADOWED WHITE ARROWbBLACK ARROWcCIRCLED WHITE ARROWbBOTTOM-SHADED WHITE ARROW
bCOMPRESSED ARROWbDASHED ARROWbDOUBLE ARROWcARROW FROM BARdWITH STROKEeVERTICAL STROKEcARROW-TAILcDASH ARROW
bFINGER-POST ARROWbFRONT-TILTED SHADOWED WHITE ARROWbHANDbHARPOON OVER RIGHTWARDS HARPOON
cWITH BARB DOWN ABOVE RIGHTWARDS HARPOON WITH BARB DOWNfBELOW LONG DASHfFROM BARfTO BAReDOWNWARDS
eUP ABOVE LEFTWARDS HARPOON WITH BARB DOWNgLONG DASHgRIGHTWARDS HARPOON WITH BARB UPfFROM BARfTO BAReUPWARDS
bHEAVY ARROWcCOMPRESSED ARROWbLEFT-SHADED WHITE ARROWbOPEN-HEADED ARROWbPAIRED ARROWSbQUADRUPLE ARROW
bRIGHT-SHADED WHITE ARROWbROCKETbSANS-SERIF ARROWbSQUARED ARROWbSQUIGGLE ARROWbTOP SHADED WHITE ARROW
bTRIANGLE ARROWHEADbTRIANGLE-HEADED ARROWdARROW OVER RIGHTWARDS TRIANGLE-HEADED ARROWeTO BAReWITH BOLD SHAFT
fDOUBLE HORIZONTAL STROKEgVERTICAL STROKEfHEAVY SHAFTfLONG TIP DOWNWARDShUPWARDSfMEDIUM SHAFTfNARROW SHAFT
fVERY HEAVY SHAFTdDASHED ARROWdPAIRED ARROWSbTRIPLE ARROWcDASH ARROWbTWO HEADED ARROWbTWO-HEADED ARROW FROM BAR
eWITH DOUBLE VERTICAL STROKEfTAILfTAIL WITH DOUBLE VERTICAL STROKEhVERTICAL STROKEfTRIANGLE ARROWHEADSfVERTICAL STROKE
dTRIPLE DASH ARROWbWAVE ARROWbWHITE ARROWcARROW WITHIN TRIANGLE ARROWHEADaLEGaLEMONaLEOaLEOPARD
aLEPCHA CONSONANT SIGN KdKANGdLdMdNdNYIN-DOdPdRdTbDIGIT EIGHTcFIVEcFOURcNINEcONEcSEVENcSIXcTHREEcTWOcZERObLETTER AcBA
cBLAcCAcCHAcDAcDDAcDZAcFAcFLAcGAcGLAcHAcHLAcJAcKAcKHAcKLAcLAcMAcMLAcNAcNGAcNYAcPAcPHAcPLAcRAcSAcSHAcTAcTHAcTSAcTSHA
cTTAcTTHAcVAcWAcYAbPUNCTUATION CER-WAcNYET THYOOM TA-ROLcTA-ROLcTSHOOKcTSHOOK CER-WAbSIGN NUKTAcRAN
bSUBJOINED LETTER RAdYAbVOWEL SIGN AAdEdIdOdOOdUdUUaLESS-THAN ABOVE DOUBLE-LINE EQUAL ABOVE GREATER-THAN
dGREATER-THAN ABOVE DOUBLE-LINE EQUALdLEFTWARDS ARROWdSIMILAR ABOVE GREATER-THANeOR EQUAL
dSLANTED EQUAL ABOVE GREATER-THAN ABOVE SLANTED EQUALcAND NOT APPROXIMATEdSINGLE-LINE NOT EQUAL TOcBUT NOT EQUAL TO
eEQUIVALENT TOcCLOSED BY CURVEeCURVE ABOVE SLANTED EQUALcEQUAL TO OR GREATER-THANcOR APPROXIMATEdEQUAL TO
dEQUIVALENT TOdGREATER-THANdSLANTED EQUAL TOfTO WITH DOT ABOVEiABOVE RIGHTiINSIDEcOVER EQUAL TOcSIGN
cWITH CIRCLE INSIDEdDOTdQUESTION MARK ABOVEaLEVEL SLIDERaLFaLIBRAaLIGATURE OPEN ET ORNAMENTaLIGHT CHECK MARK
bEIGHT SPOKED ASTERISKbFIVE POINTED BLACK STARcSPOKED ASTERISKbFOUR POINTED BLACK CUSPeSTARbGREEK CROSS
bLEFT TORTOISE SHELL BRACKET ORNAMENTbRAILbRIGHT TORTOISE SHELL BRACKET ORNAMENTbSALTIREbSHADEbSIX SPOKED ASTERISK
bTHREE POINTED BLACK STARbTWELVE POINTED BLACK STARbVERTICAL BARbWHITE SQUAREaLIGHTNINGaLIGHTNING MOODbMOOD BUBBLE
aLIMBU DIGIT EIGHTcFIVEcFOURcNINEcONEcSEVENcSIXcTHREEcTWOcZERObEXCLAMATION MARKbLETTER BAcBHAcCAcCHAcDAcDHAcGAcGHA
cGYANcHAcJAcJHAcKAcKHAcLAcMAcNAcNGAcPAcPHAcRAcSAcSHAcSSAcTAcTHAcTRAcWAcYAcYANbQUESTION MARKbSIGN KEMPHRENGcLOO
cMUKPHRENGcSA-IbSMALL LETTER ANUSVARAdKAdLAdMAdNAdNGAdPAdRAdTAbSUBJOINED LETTER RAdWAdYAbVOWEL SIGN AdAIdAUdEdEEdIdO
dOOdUbVOWEL-CARRIER LETTERaLIMITED LIABILITY SIGNaLINE FEEDbINTEGRATION NOT INCLUDING THE POLE
cWITH RECTANGULAR PATH AROUND POLEdSEMICIRCULAR PATH AROUND POLEbSEPARATORbTABULATIONbTABULATION SET
aLINEAR A SIGN A028BdA100-102dA120BdA131CdA301dA302dA303dA304dA305dA306dA307dA308dA309AdA309BdA309CdA310dA311dA312
dA313AdA313BdA313CdA314dA315dA316dA317dA318dA319dA320dA321dA322dA323dA324dA325dA326dA327dA328dA329dA330dA331dA332dA333
dA334dA335dA336dA337dA338dA339dA340dA341dA342dA343dA344dA345dA346dA347dA348dA349dA350dA351dA352dA353dA354dA355dA356
dA357dA358dA359dA360dA361dA362dA363dA364dA365dA366dA367dA368dA369dA370dA371dA400-VASdA401-VASdA402-VASdA403-VAS
dA404-VASdA405-VASdA406-VASdA407-VASdA408-VASdA409-VASdA410-VASdA411-VASdA412-VASdA413-VASdA414-VASdA415-VASdA416-VAS
dA417-VASdA418-VASdA501dA502dA503dA504dA505dA506dA508dA509dA510dA511dA512dA513dA515dA516dA520dA521dA523dA524dA525dA526
dA527dA528dA529dA530dA531dA532dA534dA535dA536dA537dA538dA539dA540dA541dA542dA545dA547dA548dA549dA550dA551dA552dA553
dA554dA555dA556dA557dA559dA563dA564dA565dA566dA568dA569dA570dA571dA572dA573dA574dA575dA576dA577dA578dA579dA580dA581
dA582dA583dA584dA585dA586dA587dA588dA589dA591dA592dA594dA595dA596dA598dA600dA601dA602dA603dA604dA606dA608dA609dA610
dA611dA612dA613dA614dA615dA616dA617dA618dA619dA620dA621dA622dA623dA624dA626dA627dA628dA629dA634dA637dA638dA640dA642
dA643dA644dA645dA646dA648dA649dA651dA652dA653dA654dA655dA656dA657dA658dA659dA660dA661dA662dA663dA664dA701 AdA702 B
dA703 DdA704 EdA705 FdA706 HdA707 JdA708 KdA709 LdA709-2 L2e3 L3e4 L4e6 L6dA710 WdA711 XdA712 YdA713 OMEGAdA714 ABB
dA715 BBdA717 DDdA726 EYYYdA732 JEdA800dA801dA802dA803dA804dA805dA806dA807dAB001dAB002dAB003dAB004dAB005dAB006dAB007
dAB008dAB009dAB010dAB011dAB013dAB016dAB017dAB020dAB021dAB021FdAB021MdAB022dAB022FdAB022MdAB023dAB023MdAB024dAB026
dAB027dAB028dAB029dAB030dAB031dAB034dAB037dAB038dAB039dAB040dAB041dAB044dAB045dAB046dAB047dAB048dAB049dAB050dAB051
dAB053dAB054dAB055dAB056dAB057dAB058dAB059dAB060dAB061dAB065dAB066dAB067dAB069dAB070dAB073dAB074dAB076dAB077dAB078
dAB079dAB080dAB081dAB082dAB085dAB086dAB087dAB118dAB120dAB122dAB123dAB131AdAB131BdAB164dAB171dAB180dAB188dAB191
bB IDEOGRAM B100 MANdB102 WOMANdB104 DEERdB105 EQUIDdB105F MAREdB105M STALLIONdB106F EWEdB106M RAMdB107F SHE-GOAT
dB107M HE-GOATdB108F SOWdB108M BOARdB109F COWdB109M BULLdB120 WHEATdB121 BARLEYdB122 OLIVEdB123 SPICEdB125 CYPERUS
dB130 OILdB131 WINEdB132dB140 BRONZEdB141 GOLDdB142dB145 WOOLdB146dB150dB151 HORNdB152dB153dB154dB157dB158dB159 CLOTH
dB160dB161dB162 GARMENTdB163 ARMOURdB164dB165dB166dB167dB168dB169dB170dB171dB172dB173 MONTHdB174dB176 TREEdB177dB178
dB179dB180dB181dB182dB183dB184dB185dB189dB190dB191 HELMETdB220 FOOTSTOOLdB225 BATHTUBdB230 SPEARdB231 ARROWdB232
dB233 SWORDdB234dB236dB240 WHEELED CHARIOTdB241 CHARIOTdB242 CHARIOT FRAMEdB243 WHEELdB245dB246dB248dB249dB251dB252
dB253dB254 DARTdB255dB256dB257dB258dB259dVESSEL B155eB200eB201eB202eB203eB204eB205eB206eB207eB208eB209eB210eB211eB212
eB213eB214eB215eB216eB217eB218eB219eB221eB222eB226eB227eB228eB229eB250eB305cMONOGRAM B127 KAPOdB128 KANAKOdB133 AREPA
dB135 MERIdB156 TURO2dB247 DIPTEcSYLLABLE B001 DAdB002 ROdB003 PAdB004 TEdB005 TOdB006 NAdB007 DIdB008 AdB009 SE
dB010 UdB011 POdB012 SOdB013 MEdB014 DOdB015 MOdB016 QAdB017 ZAdB020 ZOdB021 QIdB023 MUdB024 NEdB025 A2dB026 RU
dB027 REdB028 IdB029 PU2dB030 NIdB031 SAdB032 QOdB033 RA3dB036 JOdB037 TIdB038 EdB039 PIdB040 WIdB041 SIdB042 WO
dB043 A3dB044 KEdB045 DEdB046 JEdB048 NWAdB050 PUdB051 DUdB052 NOdB053 RIdB054 WAdB055 NUdB057 JAdB058 SUdB059 TA
dB060 RAdB061 OdB062 PTEdB065 JUdB066 TA2dB067 KIdB068 RO2dB069 TUdB070 KOdB071 DWEdB072 PEdB073 MIdB074 ZEdB075 WE
dB076 RA2dB077 KAdB078 QEdB080 MAdB081 KUdB085 AUdB087 TWEdB090 DWOdB091 TWOcSYMBOL B018dB019dB022dB034dB047dB049dB056
dB063dB064dB079dB082dB083dB086dB089aLINK SYMBOLaLINKED PAPERCLIPSaLION FACEaLIPSaLIPSTICKaLIRA SIGNaLISU LETTER AcAE
cBAcCAcCHAcDAcDZAcEcEUcFAcGAcGHAcHAcHHAcIcJAcKAcKHAcLAcMAcNAcNGAcOcOEcPAcPHAcSAcSHAcTAcTHAcTONE MYA BOeCYAeJEUeNAeTI
dNA POcTSAcTSHAcUcUEcUHcWAcXAcYAcYHAcZAcZHAbPUNCTUATION COMMAcFULL STOPaLIVRE TOURNOIS SIGNaLIZARDaLLAMAaLOBSTERaLOCK
aLOCK WITH INK PENaLOCKING-SHIFT ONEcZEROaLOGICAL ANDbAND WITH DOT ABOVEdDOUBLE OVERBAReUNDERBARdHORIZONTAL DASH
dMIDDLE STEMdUNDERBARbORbOR OVERLAPPING LOGICAL ANDcWITH DOT ABOVEdDOUBLE OVERBAReUNDERBARdHORIZONTAL DASHdMIDDLE STEM
aLOLLIPOPaLONG DASH FROM LEFT MEMBER OF DOUBLE VERTICALbDIVISIONbDRUMbLEFT RIGHT ARROWdDOUBLE ARROWcTACK
bLEFTWARDS ARROWcARROW FROM BARcDOUBLE ARROWdARROW FROM BARcSQUIGGLE ARROWbRIGHT TACKbRIGHTWARDS ARROWcARROW FROM BAR
cDOUBLE ARROWdARROW FROM BARcSQUIGGLE ARROWaLOTION BOTTLEaLOTUSaLOUDLY CRYING FACEaLOVE HOTELbLETTERaLOW ASTERISK
bBATTERYbBRIGHTNESS SYMBOLbDOUBLE PRIME QUOTATION MARKbKAVYKAbKAVYKA WITH DOTbLINEaLOWER BLADE SCISSORS
bFIVE EIGHTHS BLOCKbHALF BLOCKcCIRCLEcINVERSE WHITE CIRCLEcMEDIUM SHADEbLEFT BALLPOINT PEN
cBLOCK DIAGONAL LOWER MIDDLE LEFT TO LOWER CENTREjRIGHTeUPPER CENTRE TO LOWER MIDDLE RIGHTiRIGHThUPPER MIDDLE RIGHT
fLEFT TO LOWER CENTREiMIDDLE RIGHThUPPER MIDDLE RIGHTfMIDDLE LEFT TO LOWER CENTREjMIDDLE RIGHTjRIGHTcCRAYON
cFOUNTAIN PENcPAINTBRUSHcPENCILcQUADRANT CIRCULAR ARCcSEMICIRCULAR ANTICLOCKWISE ARROWcTRIANGLE
cTRIANGULAR MEDIUM SHADEbONE EIGHTH BLOCKcQUARTER BLOCKbRIGHT BLOCK DIAGONAL LOWER CENTRE TO LOWER MIDDLE RIGHT
hUPPER MIDDLE RIGHTiRIGHTfLEFT TO LOWER MIDDLE RIGHThUPPER CENTREiMIDDLE RIGHTfMIDDLE LEFT TO UPPER CENTRE
jMIDDLE RIGHTjRIGHTeUPPER MIDDLE LEFT TO UPPER CENTREjRIGHTcCORNER WITH DOTcDROP-SHADOWED WHITE SQUAREcPENCIL
cQUADRANT CIRCULAR ARCcSEMICIRCULAR CLOCKWISE ARROWcSHADOWED WHITE CIRCLEeSQUAREcTRIANGLEcTRIANGULAR MEDIUM SHADE
bSEVEN EIGHTHS BLOCKbTHREE EIGHTHS BLOCKcQUARTERS BLOCKbTRIANGULAR ONE QUARTER BLOCKaLOZENGE
aLOZENGE DIVIDED BY HORIZONTAL RULEaLREaLRIaLRMaLROaLUGGAGEaLUNGSaLYCIAN LETTER AcANcBcBHcDcEcENcGcHcIcJcKcKKcLcMcMMcN
cNNcPcQcRcScTcTHcTTcUcWcXcZaLYDIAN LETTER AcANcBcCcDcEcENcFcGcIcKcLcLYcMcNcNNcOcQcRcScSScTcTTcUcVcYbTRIANGULAR MARK
aLYING FACEaMACRONaMAGEaMAGIC WANDaMAGNETaMAHAJANI ABBREVIATION SIGNbLETTER AcBAcBHAcCAcCHAcDAcDDAcDDHAcDHAcEcGAcGHA
cHAcIcJAcJHAcKAcKHAcLAcMAcNAcNNAcNYAcOcPAcPHAcRAcRRAcSAcTAcTHAcTTAcTTHAcUcVAbLIGATURE SHRIbSECTION MARKbSIGN NUKTA
aMAHJONG TILE AUTUMNcBACKcBAMBOOcCHRYSANTHEMUMcEAST WINDcEIGHT OF BAMBOOSeCHARACTERSeCIRCLEScFIVE OF BAMBOOS
eCHARACTERSeCIRCLEScFOUR OF BAMBOOSeCHARACTERSeCIRCLEScGREEN DRAGONcJOKERcNINE OF BAMBOOSeCHARACTERSeCIRCLES
cNORTH WINDcONE OF BAMBOOSeCHARACTERSeCIRCLEScORCHIDcPLUMcRED DRAGONcSEVEN OF BAMBOOSeCHARACTERSeCIRCLES
cSIX OF BAMBOOSeCHARACTERSeCIRCLEScSOUTH WINDcSPRINGcSUMMERcTHREE OF BAMBOOSeCHARACTERSeCIRCLEScTWO OF BAMBOOS
eCHARACTERSeCIRCLEScWEST WINDcWHITE DRAGONcWINTERaMAKASAR ANGKAbEND OF SECTIONbLETTER AcBAcCAcDAcGAcJAcKAcLAcMAcNAcNGA
cNYAcPAcRAcSAcTAcVAcYAbPASSIMBANGbVOWEL SIGN EdIdOdUaMALAYALAM AU LENGTH MARKbDATE MARKbDIGIT EIGHTcFIVEcFOURcNINEcONE
cSEVENcSIXcTHREEcTWOcZERObFRACTION ONE EIGHTHdFIFTHdFORTIETHdHALFdONE-HUNDRED-AND-SIXTIETHdQUARTERdSIXTEENTHdTENTH
dTWENTIETHcTHREE EIGHTIETHSdQUARTERSdSIXTEENTHSdTWENTIETHSbLETTER AcAAcAIcARCHAIC IIcAUcBAcBHAcCAcCHAcCHILLU KdLdLL
dLLLdMdNdNNdRRdYcDAcDDAcDDHAcDHAcDOT REPHcEcEEcGAcGHAcHAcIcIIcJAcJHAcKAcKHAcLAcLLAcLLLAcMAcNAcNGAcNNAcNNNAcNYAcOcOOcPA
cPHAcRAcRRAcSAcSHAcSSAcTAcTHAcTTAcTTHAcTTTAcUcUUcVAcVEDIC ANUSVARAcVOCALIC LdLLdRdRRcYAbNUMBER ONE HUNDREDdTHOUSAND
cTENbSIGN ANUSVARAcAVAGRAHAcCANDRABINDUcCIRCULAR VIRAMAcCOMBINING ANUSVARA ABOVEcPARAcVERTICAL BAR VIRAMAcVIRAMA
cVISARGAbVOWEL SIGN AAdAIdAUdEdEEdIdIIdOdOOdUdUUdVOCALIC LeLLeReRRaMALE AND FEMALE SIGNbSIGN
bWITH STROKE AND MALE AND FEMALE SIGNdSIGNaMALTESE CROSSaMAMMOTHaMANaMAN AND WOMAN HOLDING HANDSbDANCING
bIN BUSINESS SUIT LEVITATINGcTUXEDObWITH GUA PI MAOcTURBANaMANAT SIGNaMANDAIC AFFRICATION MARKbGEMINATION MARK
bLETTER ABcADcAGcAHcAINcAKcAKSAcALcAMcANcAPcAQcARcAScASHcASZcATcATTcAZcDUSHENNAcHALQAcINcITcKADcUSHENNAbPUNCTUATION
bVOCALIZATION MARKaMANGOaMANICHAEAN ABBREVIATION MARK ABOVEdBELOWbLETTER AAYINcALEPHcAYINcBETHcBHETHcDALETHcDHAMEDHcFE
cGHIMELcGIMELcHEcHETHcJAYINcJHAYINcKAPHcKHAPHcLAMEDHcMEMcNUNcPEcQHOPHcQOPHcRESHcSADHEcSAMEKHcSHINcSSHINcTAWcTETH
cTHAMEDHcWAWcXAPHcXOPHcYODHcZAYINcZHAYINbNUMBER FIVEcONEcONE HUNDREDcTENcTWENTYbPUNCTUATION DOTcDOT WITHIN DOT
cDOUBLE DOT WITHIN DOTcFLEURONcLINE FILLERcSTARcTWO DOTSbSIGN UDaMANS SHOEaMANTELPIECE CLOCKaMANUAL WHEELCHAIR
aMAP SYMBOL FOR LIGHTHOUSEaMAPLE LEAFaMARCHEN HEAD MARKbLETTER -AcAcBAcCAcCHAcDAcDZAcGAcHAcJAcKAcKHAcLAcMAcNAcNGAcNYA
cPAcPHAcRAcSAcSHAcTAcTHAcTSAcTSHAcWAcYAcZAcZHAbMARK SHADbSIGN ANUSVARAcCANDRABINDUbSUBJOINED LETTER AdBAdCAdCHAdDAdDZA
dGAdHAdJAdKAdKHAdLAdMAdNAdNGAdNYAdPAdPHAdRAdSAdSHAdTAdTHAdTSAdTSHAdWAdYAdZAdZHAbVOWEL SIGN AAdEdIdOdUaMARRIAGE SYMBOL
aMARTIAL ARTS UNIFORMaMASARAM GONDI DIGIT EIGHTdFIVEdFOURdNINEdONEdSEVENdSIXdTHREEdTWOdZEROcLETTER AdAAdAIdAUdBAdBHA
dCAdCHAdDAdDDAdDDHAdDHAdEdGAdGHAdHAdIdIIdJAdJHAdJNYAdKAdKHAdKSSAdLAdLLAdMAdNAdNGAdNNAdNYAdOdPAdPHAdRAdSAdSHAdSSAdTA
dTHAdTRAdTTAdTTHAdUdUUdVAdYAcRA-KARAcREPHAcSIGN ANUSVARAdCANDRAdHALANTAdNUKTAdVISARGAcVIRAMAcVOWEL SIGN AAeAIeAUeEeI
eIIeOeUeUUeVOCALIC RaMASCULINE ORDINAL INDICATORaMASK WORK SYMBOLaMASU MARKaMATE DRINKaMATHEMATICAL BOLD CAPITAL A
dALPHAdBdBETAdCdCHIdDdDELTAdDIGAMMAdEdEPSILONdETAdFdGdGAMMAdHdIdIOTAdJdKdKAPPAdLdLAMDAdMdMUdNdNUdOdOMEGAdOMICRONdPdPHI
dPIdPSIdQdRdRHOdSdSIGMAdTdTAUdTHETAdTHETA SYMBOLdUdUPSILONdVdWdXdXIdYdZdZETAcDIGIT EIGHTdFIVEdFOURdNINEdONEdSEVENdSIX
dTHREEdTWOdZEROcEPSILON SYMBOLcFRAKTUR CAPITAL AeBeCeDeEeFeGeHeIeJeKeLeMeNeOePeQeReSeTeUeVeWeXeYeZdSMALL AeBeCeDeEeFeG
eHeIeJeKeLeMeNeOePeQeReSeTeUeVeWeXeYeZcITALIC CAPITAL AeALPHAeBeBETAeCeCHIeDeDELTAeEeEPSILONeETAeFeGeGAMMAeHeIeIOTAeJ
eKeKAPPAeLeLAMDAeMeMUeNeNUeOeOMEGAeOMICRONePePHIePIePSIeQeReRHOeSeSIGMAeTeTAUeTHETAeTHETA SYMBOLeUeUPSILONeVeWeXeXIeY
eZeZETAdEPSILON SYMBOLdKAPPA SYMBOLdNABLAdPARTIAL DIFFERENTIALdPHI SYMBOLdPI SYMBOLdRHO SYMBOLdSMALL AeALPHAeBeBETAeC
eCHIeDeDELTAeEeEPSILONeETAeFeFINAL SIGMAeGeGAMMAeHeIeIOTAeJeKeKAPPAeLeLAMDAeMeMUeNeNUeOeOMEGAeOMICRONePePHIePIePSIeQeR
eRHOeSeSIGMAeTeTAUeTHETAeUeUPSILONeVeWeXeXIeYeZeZETAdTHETA SYMBOLcKAPPA SYMBOLcNABLAcPARTIAL DIFFERENTIALcPHI SYMBOL
cPI SYMBOLcRHO SYMBOLcSCRIPT CAPITAL AeBeCeDeEeFeGeHeIeJeKeLeMeNeOePeQeReSeTeUeVeWeXeYeZdSMALL AeBeCeDeEeFeGeHeIeJeKeL
eMeNeOePeQeReSeTeUeVeWeXeYeZcSMALL AdALPHAdBdBETAdCdCHIdDdDELTAdDIGAMMAdEdEPSILONdETAdFdFINAL SIGMAdGdGAMMAdHdIdIOTAdJ
dKdKAPPAdLdLAMDAdMdMUdNdNUdOdOMEGAdOMICRONdPdPHIdPIdPSIdQdRdRHOdSdSIGMAdTdTAUdTHETAdUdUPSILONdVdWdXdXIdYdZdZETA
cTHETA SYMBOLbDOUBLE-STRUCK CAPITAL AeBeDeEeFeGeIeJeKeLeMeOeSeTeUeVeWeXeYdDIGIT EIGHTeFIVEeFOUReNINEeONEeSEVENeSIX
eTHREEeTWOeZEROdSMALL AeBeCeDeEeFeGeHeIeJeKeLeMeNeOePeQeReSeTeUeVeWeXeYeZbFALLING DIAGONALbFRAKTUR CAPITAL AdBdDdEdFdG
dJdKdLdMdNdOdPdQdSdTdUdVdWdXdYcSMALL AdBdCdDdEdFdGdHdIdJdKdLdMdNdOdPdQdRdSdTdUdVdWdXdYdZbITALIC CAPITAL AdALPHAdBdBETA
dCdCHIdDdDELTAdEdEPSILONdETAdFdGdGAMMAdHdIdIOTAdJdKdKAPPAdLdLAMDAdMdMUdNdNUdOdOMEGAdOMICRONdPdPHIdPIdPSIdQdRdRHOdS
dSIGMAdTdTAUdTHETAdTHETA SYMBOLdUdUPSILONdVdWdXdXIdYdZdZETAcEPSILON SYMBOLcKAPPA SYMBOLcNABLAcPARTIAL DIFFERENTIAL
cPHI SYMBOLcPI SYMBOLcRHO SYMBOLcSMALL AdALPHAdBdBETAdCdCHIdDdDELTAdDOTLESS IeJdEdEPSILONdETAdFdFINAL SIGMAdGdGAMMAdI
dIOTAdJdKdKAPPAdLdLAMDAdMdMUdNdNUdOdOMEGAdOMICRONdPdPHIdPIdPSIdQdRdRHOdSdSIGMAdTdTAUdTHETAdUdUPSILONdVdWdXdXIdYdZdZETA
cTHETA SYMBOLbLEFT ANGLE BRACKETcDOUBLE ANGLE BRACKETcFLATTENED PARENTHESIScWHITE SQUARE BRACKET
dTORTOISE SHELL BRACKETbMONOSPACE CAPITAL AdBdCdDdEdFdGdHdIdJdKdLdMdNdOdPdQdRdSdTdUdVdWdXdYdZcDIGIT EIGHTdFIVEdFOUR
dNINEdONEdSEVENdSIXdTHREEdTWOdZEROcSMALL AdBdCdDdEdFdGdHdIdJdKdLdMdNdOdPdQdRdSdTdUdVdWdXdYdZbRIGHT ANGLE BRACKET
cDOUBLE ANGLE BRACKETcFLATTENED PARENTHESIScWHITE SQUARE BRACKETdTORTOISE SHELL BRACKETbRISING DIAGONAL
bSANS-SERIF BOLD CAPITAL AfALPHAfBfBETAfCfCHIfDfDELTAfEfEPSILONfETAfFfGfGAMMAfHfIfIOTAfJfKfKAPPAfLfLAMDAfMfMUfNfNUfO
fOMEGAfOMICRONfPfPHIfPIfPSIfQfRfRHOfSfSIGMAfTfTAUfTHETAfTHETA SYMBOLfUfUPSILONfVfWfXfXIfYfZfZETAeDIGIT EIGHTfFIVEfFOUR
fNINEfONEfSEVENfSIXfTHREEfTWOfZEROeEPSILON SYMBOLeITALIC CAPITAL AgALPHAgBgBETAgCgCHIgDgDELTAgEgEPSILONgETAgFgGgGAMMA
gHgIgIOTAgJgKgKAPPAgLgLAMDAgMgMUgNgNUgOgOMEGAgOMICRONgPgPHIgPIgPSIgQgRgRHOgSgSIGMAgTgTAUgTHETAgTHETA SYMBOLgUgUPSILON
gVgWgXgXIgYgZgZETAfEPSILON SYMBOLfKAPPA SYMBOLfNABLAfPARTIAL DIFFERENTIALfPHI SYMBOLfPI SYMBOLfRHO SYMBOLfSMALL A
gALPHAgBgBETAgCgCHIgDgDELTAgEgEPSILONgETAgFgFINAL SIGMAgGgGAMMAgHgIgIOTAgJgKgKAPPAgLgLAMDAgMgMUgNgNUgOgOMEGAgOMICRONgP
gPHIgPIgPSIgQgRgRHOgSgSIGMAgTgTAUgTHETAgUgUPSILONgVgWgXgXIgYgZgZETAfTHETA SYMBOLeKAPPA SYMBOLeNABLA
ePARTIAL DIFFERENTIALePHI SYMBOLePI SYMBOLeRHO SYMBOLeSMALL AfALPHAfBfBETAfCfCHIfDfDELTAfEfEPSILONfETAfFfFINAL SIGMAfG
fGAMMAfHfIfIOTAfJfKfKAPPAfLfLAMDAfMfMUfNfNUfOfOMEGAfOMICRONfPfPHIfPIfPSIfQfRfRHOfSfSIGMAfTfTAUfTHETAfUfUPSILONfVfWfX
fXIfYfZfZETAeTHETA SYMBOLdCAPITAL AeBeCeDeEeFeGeHeIeJeKeLeMeNeOePeQeReSeTeUeVeWeXeYeZdDIGIT EIGHTeFIVEeFOUReNINEeONE
eSEVENeSIXeTHREEeTWOeZEROdITALIC CAPITAL AfBfCfDfEfFfGfHfIfJfKfLfMfNfOfPfQfRfSfTfUfVfWfXfYfZeSMALL AfBfCfDfEfFfGfHfIfJ
fKfLfMfNfOfPfQfRfSfTfUfVfWfXfYfZdSMALL AeBeCeDeEeFeGeHeIeJeKeLeMeNeOePeQeReSeTeUeVeWeXeYeZbSCRIPT CAPITAL AdCdDdGdJdK
dNdOdPdQdSdTdUdVdWdXdYdZcSMALL AdBdCdDdFdHdIdJdKdLdMdNdPdQdRdSdTdUdVdWdXdYdZaMAXIMIZEaMAYAN NUMERAL EIGHTcEIGHTEEN
cELEVENcFIFTEENcFIVEcFOURcFOURTEENcNINEcNINETEENcONEcSEVENcSEVENTEENcSIXcSIXTEENcTENcTHIRTEENcTHREEcTWELVEcTWOcZERO
aMEASURED ANGLEbANGLE OPENING LEFTcWITH OPEN ARM ENDING IN ARROW POINTING DOWN AND LEFTlRIGHTjLEFT AND DOWNlUP
jRIGHT AND DOWNlUPjUP AND LEFTlRIGHTbBYbRIGHT ANGLE WITH DOTaMEAT ON BONEaMECHANICAL ARMbLEG
aMEDEFAIDRIN CAPITAL LETTER AdAIdATIUdBdCdDdEdFdGdHdHPdIdJdKdKPdLdMdNdNGdNYdOdOEdPdQdRdSdTdUdVdWdXdYdYUdZbCOMMA
bDIGIT EIGHTcFIVEcFOURcNINEcONEcONE ALTERNATE FORMcSEVENcSIXcTHREEcTHREE ALTERNATE FORMcTWOcTWO ALTERNATE FORMcZERO
bEXCLAMATION OHbFULL STOPbNUMBER EIGHTEENcELEVENcFIFTEENcFOURTEENcNINETEENcSEVENTEENcSIXTEENcTENcTHIRTEENcTWELVE
bSMALL LETTER AdAIdATIUdBdCdDdEdFdGdHdHPdIdJdKdKPdLdMdNdNGdNYdOdOEdPdQdRdSdTdUdVdWdXdYdYUdZbSYMBOL AIVAaMEDIEVAL COMMA
bEXCLAMATION MARKbQUESTION MARKaMEDIUM BLACK CIRCLEbBOLD WHITE CIRCLEbEIGHT POINTED BLACK STARcSPOKED ASTERISK
bFIVE SPOKED ASTERISKbFLATTENED LEFT PARENTHESIS ORNAMENTcRIGHT PARENTHESIS ORNAMENTbFOUR POINTED BLACK STAR
dPINWHEEL STARbGREEK CROSSbLEFT CURLY BRACKET ORNAMENTcPARENTHESIS ORNAMENTbLEFT-POINTING ANGLE BRACKET ORNAMENT
bMATHEMATICAL SPACEbRIGHT CURLY BRACKET ORNAMENTcPARENTHESIS ORNAMENTbRIGHT-POINTING ANGLE BRACKET ORNAMENTbSALTIRE
bSHADEbSIX POINTED BLACK STARcSPOKED ASTERISKbSMALL WHITE CIRCLEbTHREE POINTED BLACK STARdPINWHEEL STARbVERTICAL BAR
bWHITE CIRCLEcSQUAREaMEETEI MAYEK AHANG KHUDAMcANJIcAPUN IYEKcCHEIKHANcCHEIKHEIcDIGIT EIGHTdFIVEdFOURdNINEdONEdSEVEN
dSIXdTHREEdTWOdZEROcLETTER ATIYAdBAdBHAMdCHAdCHILdDDAdDDHAdDHOUdDILdEdGHOUdGOKdHUKdIdI LONSUMdJHAMdJILdKHOUdKOK
dKOK LONSUMdLAIdLAI LONSUMdMITdMIT LONSUMdNAdNA LONSUMdNGOUdNGOU LONSUMdNNAdNYAdOdPAdPA LONSUMdPHAMdRAIdSAMdSHAdSSA
dTHOUdTILdTIL LONSUMdTTAdTTHAdUNdWAIdYANGcLUM IYEKcSYLLABLE REPETITION MARKcVIRAMAcVOWEL SIGN AAIeAAUeANAPeAUeCHEINAP
eIIeINAPeNUNGeONAPeSOUNAPeUNAPeUUeVISARGAeYENAPcWORD REPETITION MARKaMELONaMELTING FACEaMEMO
aMENDE KIKAKUI COMBINING NUMBER HUNDRED THOUSANDSeHUNDREDSeMILLIONSeTEENSeTEN THOUSANDSeTENSeTHOUSANDScDIGIT EIGHT
dFIVEdFOURdNINEdONEdSEVENdSIXdTHREEdTWOcSYLLABLE M001 KIdM002 KAdM003 KUdM004 WIdM005 WAdM006 WUdM007 MINdM008 MAN
dM009 MUNdM010 BIdM011 BAdM012 BUdM013 IdM014 AdM015 UdM016 DIdM017 DAdM018 DUdM019 SIdM020 SAdM021 SUdM022 TIdM023 TA
dM024 TUdM025 LIdM026 LAdM027 LUdM028 JIdM029 JAdM030 JUdM031 YIdM032 YAdM033 YUdM034 FIdM035 FAdM036 FUdM037 NIN
dM038 NANdM039 NUNdM040 HEEdM041 HAdM042 HOOdM043 NGGAdM044 KPEEdM045 WOdM046 HUANdM047 MBEEdM048 KOdM049 WVAdM050 PU
dM051 PEdM052 HENdM053 HINdM054 LOOdM055 TEdM056 GBAdM057 NGONdM058 NYANdM059 MENdM060 NYONdM061 WVIdM062 MBAdM063 JO
dM064 NDOdM065 KEEdM066 POdM067 NDOOdM068 PIdM069 TOdM070 GBOdM071 GBOOdM072 MBEdM073 LEdM074 KPUdM075 FEdM076 KOO
dM077 VOdM078 FEEdM079 SOdM080 YEdM081 PEEdM082 NGGUdM083 HEEIdM084 LEEdM085 VEdM086 LONG NGGEdM087 HUNdM088 FO
dM089 DEEdM090 NGGIdM091 TEEdM092 KPAdM093 GBEEdM094 MONdM095 KEdM096 HEdM097 BEdM098 NYENdM099 PAdM100 EdM101 FAN
dM102 POOdM103 BOOdM104 TOOdM105 LONG MBOOdM106 LONG NGGOOdM107 GBEdM108 KPEdM109 YEEdM110 LONG LEdM111 GAdM112 KPOO
dM113 JEdM114 WOOdM115 NGGEEdM116 SEdM117 NENdM118 WEdM119 NDEdM120 NGGOdM121 YOdM122 MBUdM123 NDIdM124 GBIdM125 NDU
dM126 WEEdM127 NGGUAdM128 HOOUdM129 NDAdM130 HANdM131 INdM132 KPIdM133 FOOdM134 NJOOdM135 INdM136 SOOdM137 EIdM138 BO
dM139 WVEdM140 HOdM141 YOOdM142 LONG MBOdM143 WEIdM144 VOOdM145 MBIdM146 NGGEdM147 OdM148 GBUdM149 NJEEdM150 BEE
dM151 VUdM152 NJAdM153 LOdM154 MUANdM155 GIdM156 NGGOOdM157 JEEdM158 KPOdM159 NGGAAdM160 JOOdM161 LONG MBEdM162 SEE
dM163 EEdM164 NYINdM165 OOdM166 GUEIdM167 GUANdM168 GUdM169 NONdM170 NYUNdM171 RAdM172 MBOOdM173 VEEdM174 MBO
dM175 LONG JOdM176 HIdM177 NGUANdM178 ENdM179 KUAdM180 DOOdM181 DOdM182 VIdM183 LONG NGGOdM184 NGENdM185 VAdM186 HU
dM187 MBUUdM188 MBEEdM189 MUENdM190 GEEdM191 NDEEdM192 NJUdM193 HONdM194 WUIdM195 ANdM196 SIAdM197 FUA
aMENORAH WITH NINE BRANCHESaMENS SYMBOLaMERCURYaMEROITIC CURSIVE FRACTION EIGHT TWELFTHSdELEVEN TWELFTHSdFIVE TWELFTHS
dFOUR TWELFTHSdNINE TWELFTHSdONE HALFeTWELFTHdSEVEN TWELFTHSdSIX TWELFTHSdTEN TWELFTHSdTHREE TWELFTHSdTWO TWELFTHS
cLETTER AdARCHAIC SAdBAdDAdEdHHAdIdKAdKHAdLAdMAdNAdNEdOdPAdQAdRAdSAdSEdTAdTEdTOdWAdYAcLOGOGRAM IMNdRMTcNUMBER EIGHT
dEIGHT HUNDREDeHUNDRED THOUSANDeTHOUSANDdEIGHTY THOUSANDdFIFTYdFIFTY THOUSANDdFIVEdFIVE HUNDREDeHUNDRED THOUSAND
eTHOUSANDdFORTYdFORTY THOUSANDdFOURdFOUR HUNDREDeHUNDRED THOUSANDeTHOUSANDdNINEdNINE HUNDREDeHUNDRED THOUSANDeTHOUSAND
dNINETY THOUSANDdONEdONE HUNDREDeHUNDRED THOUSANDeTHOUSANDdSEVENdSEVEN HUNDREDeHUNDRED THOUSANDeTHOUSANDdSEVENTY
dSEVENTY THOUSANDdSIXdSIX HUNDREDeHUNDRED THOUSANDeTHOUSANDdSIXTYdSIXTY THOUSANDdTENdTEN THOUSANDdTHIRTY
dTHIRTY THOUSANDdTHREEdTHREE HUNDREDeHUNDRED THOUSANDeTHOUSANDdTWENTYdTWENTY THOUSANDdTWOdTWO HUNDREDeHUNDRED THOUSAND
eTHOUSANDbHIEROGLYPHIC LETTER AdBAdBA-2dDAdEdHHAdIdKAdKHAdLAdMAdNAdNA-2dNEdNE-2dOdPAdQAdRAdRA-2dSAdSA-2dSEdTAdTA-2dTE
dTE-2dTOdWAdYAcSYMBOL VIDJdVIDJ-2aMERPERSONaMESSAGE WAITINGaMETRICAL BREVEbLONG OVER SHORTdTWO SHORTSbPENTASEME
bSHORT OVER LONGbTETRASEMEbTRISEMEbTWO SHORTS JOINEDdOVER LONGaMETROaMIAO LETTER AHcARCHAIC MAdNAdNGAdZZAcBAcBRIcDA
cDDAcDLHAcDLHYAcDZAcDZHAcDZYIcDZZAcFAcGAcGHAcGHHAcHAcHHAcKAcLAcLHAcLHYAcLYAcMAcMHAcNAcNASALIZATIONcNGAcNGHAcNHAcNNA
cNNHAcNYAcNYHAcPAcPLAcQAcQGAcREFORMED TONE-1e2e4e5e6e8dTSHAcRTEcSAcSHAcSSAcSYIcTAcTEcTLHAcTLHYAcTONE-2d3d4d5d6d7d8cTSA
cTSEcTSHAcTSSAcTTAcVAcVFAcWAcXAcYI DZHAdKAdNNAdPAdTAdTSAdTSHAdTTAcZAcZHAcZSAcZSHAcZZAcZZSAcZZSYAcZZYAbSIGN ASPIRATION
cCONSONANT MODIFIER BARcREFORMED ASPIRATIONdVOICINGbTONE ABOVEcBELOWcRIGHTcTOP RIGHTbVOWEL SIGN AdAAdAEdAEEdAHHdAIdAN
dANGdAUdEdEAdEIdENdENGdERdERRdIdIAdIANdIANGdIEdIGdIIdINGdIOdIONGdIUdNdNGdOdOERdOEYdOGdOOdOUdROUNDED EReERRdUdUAdUAN
dUANGdUEIdUIdUNGdUOGdUUdVWdWdWOdYdYIdYUIaMICR DASH SYMBOLbON US SYMBOLaMICRO SIGNaMICROBEaMICROPHONEaMICROSCOPE
aMIDDLE DOTbTHIRD WHITE RIGHT POINTING INDEXaMIDLINE HORIZONTAL ELLIPSISaMILITARY HELMETbMEDALaMILKY WAYaMILL SIGN
aMINIBUSaMINIDISCaMINIMIZEaMINUS SIGNbSIGN IN TRIANGLEcWITH COMMA ABOVEdDOT BELOWdFALLING DOTSdRISING DOTSbTILDE
aMINUS-OR-PLUS SIGNaMINYaMIRRORaMIRROR BALLaMMSPaMOBILE PHONEbPHONE OFFcWITH RIGHTWARDS ARROW AT LEFTaMODELS
aMODERN PENTATHLONaMODI ABBREVIATION SIGNbDANDAbDIGIT EIGHTcFIVEcFOURcNINEcONEcSEVENcSIXcTHREEcTWOcZERObDOUBLE DANDA
bLETTER AcAAcAIcAUcBAcBHAcCAcCHAcDAcDDAcDDHAcDHAcEcGAcGHAcHAcIcIIcJAcJHAcKAcKHAcLAcLLAcMAcNAcNGAcNNAcNYAcOcPAcPHAcRA
cSAcSHAcSSAcTAcTHAcTTAcTTHAcUcUUcVAcVOCALIC LdLLdRdRRcYAbSIGN ANUSVARAcARDHACANDRAcHUVAcVIRAMAcVISARGAbVOWEL SIGN AA
dAIdAUdEdIdIIdOdUdUUdVOCALIC LeLLeReRRaMODIFIER BREVE WITH INVERTED BREVEbLETTER ACUTE ACCENTcALVEOLAR CLICK
cAPOSTROPHEcBEGIN HIGH TONEdLOW TONEcBILABIAL CLICKcCAPITAL AdAEdBdBARRED BdCdDdEdFdGdHdH WITH STROKEdIdJdKdLdMdNdOdOU
dPdQdRdREVERSED EeNdTdUdVdWcCENTRED LEFT HALF RINGdRIGHT HALF RINGcCHINESE TONE YANG PINGfQUfRUfSHANGeYIN PINGfQUfRU
fSHANGcCIRCUMFLEX ACCENTcCOLONcCROSS ACCENTcCYRILLIC ENdHARD SIGNdSOFT SIGNcDENTAL CLICKcDOT HORIZONTAL BARdSLASH
dVERTICAL BARcDOUBLE APOSTROPHEdPRIMEcDOWN ARROWHEADdTACKcEND HIGH TONEdLOW TONEcEXTRA-HIGH DOTTED LEFT-STEM TONE BAR
fTONE BAReLEFT-STEM TONE BAReTONE BARdLOW DOTTED LEFT-STEM TONE BARfTONE BAReLEFT-STEM TONE BAReTONE BARcGEORGIAN NAR
cGLOTTAL STOPdSTOP WITH STROKEcGRAVE ACCENTcHALF TRIANGULAR COLONcHIGH DOTTED LEFT-STEM TONE BAReTONE BAR
dLEFT-STEM TONE BARdTONE BARcLATERAL CLICKcLEFT ARROWHEADdHALF RINGdTACKcLOW ACUTE ACCENTdCIRCUMFLEX ACCENT
dDOTTED LEFT-STEM TONE BAReTONE BARdDOWN ARROWHEADdGRAVE ACCENTdINVERTED EXCLAMATION MARKdLEFT ARROWeARROWHEAD
dLEFT-STEM TONE BARdMACRONdRIGHT ARROWHEADdRINGdTILDEdTONE BARdUP ARROWHEADdVERTICAL LINEcLOWER RIGHT CORNER ANGLE
cMACRONcMID DOTTED LEFT-STEM TONE BAReTONE BARdLEFT-STEM TONE BARdTONE BARcMIDDLE DOUBLE ACUTE ACCENTeGRAVE ACCENT
dGRAVE ACCENTcMINUS SIGNcOPEN SHELFcPLUS SIGNcPRIMEcRAISED COLONdDOWN ARROWdEXCLAMATION MARKdINVERTED EXCLAMATION MARK
dUP ARROWcRETROFLEX CLICK WITH RETROFLEX HOOKcREVERSED COMMAdGLOTTAL STOPeSTOP WITH STROKEcRHOTIC HOOKcRIGHT ARROWHEAD
dHALF RINGdTACKcSHELFcSHORT EQUALS SIGNcSMALL AdAEdAINdALPHAdBdB WITH HOOKdBARRED OdBETAdBOTTOM HALF OdCdC WITH CURL
dCAPITAL AAeBeGeG WITH HOOKeHeIeI WITH STROKEeINVERTED ReLeL WITH BELTeNeOEeReUeYdCHIdCLOSED OMEGAeREVERSED OPEN EdD
dD WITH HOOKfHOOK AND TAILfTAILdDELTAdDEZH DIGRAPHdDOTLESS J WITH STROKEgSTROKE AND HOOKdDZ DIGRAPHeDIGRAPH WITH CURL
gRETROFLEX HOOKdEdENGdESHdETHdEZHdFdFENG DIGRAPHdGdG WITH HOOKdGAMMAdGREEK GAMMAePHIdHdH WITH HOOKfSTROKEdHENG
dHENG WITH HOOKdI WITH STROKEdIOTAdJdJ WITH CROSSED-TAILdKdLdL WITH BELTfINVERTED LAZY SfMIDDLE TILDEfPALATAL HOOK
fRETROFLEX HOOKgHOOK AND BELTdLEZHdLEZH WITH RETROFLEX HOOKdLIGATURE OEdLS DIGRAPHdLZ DIGRAPHdMdM WITH HOOK
dN WITH LEFT HOOKfRETROFLEX HOOKdOdO WITH STROKEdOPEN EeOdPdPHIdQdRdR WITH FISHHOOKfTAILdRAMS HORNdREVERSED E
eGLOTTAL STOPeOPEN EdSdS WITH CURLfHOOKdSCHWAdSCRIPT GdSIDEWAYS UdTdT WITH PALATAL HOOKfRETROFLEX HOOK
dTC DIGRAPH WITH CURLdTESH DIGRAPHdTHETAdTOP HALF OdTS DIGRAPHeDIGRAPH WITH RETROFLEX HOOKdTURNED AeAEeALPHAeHeIeM
eM WITH LONG LEGeOPEN EeReR WITH HOOKgLONG LEGhLEG AND RETROFLEX HOOKeVeWeYeY WITH BELTdUdU BAReWITH LEFT HOOKdUPSILON
dVdV WITH HOOKfRIGHT HOOKdWdXdYdZdZ WITH CURLfRETROFLEX HOOKcSTRESS AND HIGH TONEeLOW TONE
cSUPERSCRIPT HALF TRIANGULAR COLONdTRIANGULAR COLONcTRIANGULAR COLONcTURNED COMMAcUNASPIRATEDcUP ARROWHEADdTACKcUS
cVERTICAL LINEcVOICINGcYANG DEPARTING TONE MARKcYIN DEPARTING TONE MARKaMODULO TWO SUMaMONEY BAGbWITH WINGS
aMONEY-MOUTH FACEaMONGOLIAN BIRGAbBIRGA WITH DOUBLE ORNAMENTdORNAMENTbCOLONbCOMMAbDIGIT EIGHTcFIVEcFOURcNINEcONEcSEVEN
cSIXcTHREEcTWOcZERObDOUBLE BIRGA WITH ORNAMENTbELLIPSISbFOUR DOTSbFREE VARIATION SELECTOR FOUReONEeTHREEeTWObFULL STOP
bINVERTED BIRGAcBIRGA WITH DOUBLE ORNAMENTbLETTER AcALI GALI AeAHeANUSVARA ONEeBALUDAeCAeDAeDAGALGAeDAMARUeDDAeHALF U
fYAeIeINVERTED UBADAMAeKAeNGAeNNAePAePHAeSSAeTAeTHREE BALUDAeTTAeTTHAeUBADAMAeVISARGA ONEeZAeZHAcANGcBAcCHA
cCHA WITH TWO DOTScCHIcDAcEcEEcFAcGAcHAAcIcJAcKAcKHAcLAcLHAcMAcMANCHU ALI GALI BHAfCAfCYAfDDHAfDHAfGHAfJHAfLHAfNGAfSSA
fTAfTTAfZAfZHAdFAdIdKAdRAdZHAcNAcOcOEcPAcQAcRAcSAcSHAcSIBE ANGdCHAdDAdEdFAdGAdGAAdHAdHAAdIdIYdJAdKAdPAdRAAdSHAdTAdTSA
dUdUEdZAdZHAcTAcTODO ALI GALI TAfZHAdANGdBAdCHAdDAdDZAdEdGAdGAAdHAAdIdJAdJIAdKAdLONG VOWEL SIGNdMAdNIAdOdOEdPAdQAdTA
dTSAdUdUEdWAdYAcTSAcUcUEcWAcYAcZAcZHIcZRAbMANCHU COMMAcFULL STOPbNIRUGUbROTATED BIRGAcBIRGA WITH DOUBLE ORNAMENT
eORNAMENTbSIBE SYLLABLE BOUNDARY MARKERbSWIRL BIRGAcBIRGA WITH DOUBLE ORNAMENTeORNAMENTbTODO SOFT HYPHEN
bTRIPLE BIRGA WITH ORNAMENTbTURNED SWIRL BIRGA WITH DOUBLE ORNAMENTbVOWEL SEPARATORaMONKEYaMONKEY FACE
aMONOGRAM FOR EARTHcYANGcYINaMONORAILaMONOSTABLE SYMBOLaMOOD BUBBLEaMOON CAKEbVIEWING CEREMONYaMOSQUEaMOSQUITO
aMOTHER CHRISTMASaMOTOR BOATbSCOOTERaMOTORIZED WHEELCHAIRaMOTORWAYaMOUNT FUJIaMOUNTAINaMOUNTAIN BICYCLISTbCABLEWAY
bRAILWAYaMOUSEaMOUSE FACEbTRAPaMOUTHaMOVIE CAMERAaMOYAIaMRO DANDAbDIGIT EIGHTcFIVEcFOURcNINEcONEcSEVENcSIXcTHREEcTWO
cZERObDOUBLE DANDAbLETTER AcBAcCHUcDAcDAIcEcEAcHAIcHAOcKEAAEcKHAIcKOcLAcLANcMAEMcMIMcNGIcNINcOcOLcOOcPAcPHIcRIcROcSHI
cTAcTEKcTHEAcWAcYOaMUCH GREATER-THANbLESS-THANaMULTANI LETTER AcBAcBHAcCAcCHAcDAcDDAcDDDAcDDHAcDHAcEcGAcGHAcHAcIcJA
cJJAcKAcKHAcLAcMAcNAcNNAcNYAcPAcPHAcRAcRHAcRRAcSAcTAcTHAcTTAcTTHAcUcVAcYAbSECTION MARKaMULTIMAPaMULTIPLE MUSICAL NOTES
aMULTIPLICATION SIGNbSIGN IN DOUBLE CIRCLEdLEFT HALF CIRCLEdRIGHT HALF CIRCLEdTRIANGLEcWITH DOT ABOVEdUNDERBARbX
aMULTISETaMULTISET MULTIPLICATIONbUNIONaMUSHROOMaMUSIC FLAT SIGNbNATURAL SIGNbSHARP SIGNaMUSICAL KEYBOARD
bKEYBOARD WITH JACKSbNOTEbSCOREbSYMBOL ARPEGGIATO DOWNdUPcBEGIN BEAMdPHRASEdSLURdTIEcBRACEcBRACKETcBREATH MARKcBREVE
cBREVIScBREVIS RESTcC CLEFcCAESURAcCIRCLE X NOTEHEADcCLIMACUScCLIVIScCLUSTER NOTEHEAD BLACKeWHITEcCODA
cCOMBINING ACCENTdACCENT-STACCATOdAUGMENTATION DOTdBENDdDOITdDOUBLE TONGUEdDOWN BOWdFLAG-1e2e3e4e5dFLIPdHARMONICdLOURE
dMARCATOdMARCATO-STACCATOdRIPdSMEARdSNAP PIZZICATOdSPRECHGESANG STEMdSTACCATISSIMOdSTACCATOdSTEMdTENUTOdTREMOLO-1e2e3
dTRIPLE TONGUEdUP BOWcCOMMON TIMEcCRESCENDOcCROIXcCUT TIMEcDA CAPOcDAL SEGNOcDAMPcDAMP ALLcDASHED BARLINEcDECRESCENDO
cDEGREE SLASHcDOUBLE BARLINEdFLATdSHARPcDRUM CLEF-1e2cEIGHTH NOTEdRESTcEND BEAMdOF STIMMEdPHRASEdSLURdTIEcF CLEF
dCLEF OTTAVA ALTAfBASSAcFERMATAcFERMATA BELOWcFINAL BARLINEcFINGERED TREMOLO-1e2e3cFIVE-LINE STAFFcFLAT DOWNdUPcFORTE
cFOUR-LINE STAFFdSTRING FRETBOARDcFUSA BLACKdWHITEcG CLEFdCLEF OTTAVA ALTAfBASSAcGLISSANDO DOWNdUPcGRACE NOTE NO SLASH
eSLASHcGREGORIAN C CLEFdF CLEFcHALF NOTEdPEDAL MARKdRESTcHAUPTSTIMMEcINVERTED TURNcKIEVAN C CLEFdEIGHTH NOTE STEM DOWN
gUPdEND OF PIECEdFINAL NOTEdFLAT SIGNdHALF NOTEdQUARTER NOTE STEM DOWNgUPdRECITATIVE MARKdWHOLE NOTEcKORON
cLEFT REPEAT SIGNcLONGAcLONGA IMPERFECTA RESTdPERFECTA RESTcMAXIMAcMEZZOcMINIMAcMINIMA BLACKdRESTcMOON NOTEHEAD BLACK
eWHITEcMULTI RESTcMULTIPLE MEASURE RESTcNATURAL DOWNdUPcNEBENSTIMMEcNOTEHEAD BLACKcNULL NOTEHEAD
cONE HUNDRED TWENTY-EIGHTH NOTEgRESTcONE-LINE STAFFcORNAMENT STROKE-1e10e11e2e3e4e5e6e7e8e9cOTTAVA ALTAdBASSA
cPARENTHESIS NOTEHEADcPEDAL MARKdUP MARKcPES SUBPUNCTIScPIANOcPLUS NOTEHEADcPODATUScPORRECTUScPORRECTUS FLEXUS
cQUARTER NOTEdRESTdTONE FLATeSHARPcQUINDICESIMA ALTAdBASSAcREPEAT DOTScREPEATED FIGURE-1e2e3cREVERSE FINAL BARLINE
cRIGHT REPEAT SIGNcRINFORZANDOcSCANDICUScSCANDICUS FLEXUScSEGNOcSEMIBREVIS BLACKdRESTdWHITEcSEMIMINIMA BLACKdREST
dWHITEcSHARP DOWNdUPcSHORT BARLINEcSINGLE BARLINEcSIX-LINE STAFFdSTRING FRETBOARDcSIXTEENTH NOTEdREST
cSIXTY-FOURTH NOTEeRESTcSORIcSQUARE BdNOTEHEAD BLACKeWHITEcSUBITOcTEMPUS IMPERFECTUM CUM PROLATIONE IMPERFECTA
gIMPERFECTA DIMINUTION-1i2i3gPERFECTAdPERFECTUM CUM PROLATIONE IMPERFECTAgPERFECTAgPERFECTA DIMINUTION-1
cTHIRTY-SECOND NOTEeRESTcTHREE-LINE STAFFcTORCULUScTORCULUS RESUPINUScTRcTRIANGLE NOTEHEAD DOWN BLACKfWHITEeLEFT BLACK
fWHITEeRIGHT BLACKfWHITEeUP BLACKfRIGHT BLACKgWHITEfWHITEcTRIANGLE-ROUND NOTEHEAD DOWN BLACKgWHITEcTURNcTURN SLASHdUP
cTWO-LINE STAFFcVIRGAcVOID NOTEHEADcWHOLE NOTEdRESTcWITH FINGERNAILScX NOTEHEADcZaMVSaMW
aMYANMAR CONSONANT SIGN MEDIAL HAeRAeWAeYAdMON MEDIAL LAfMAfNAdSHAN MEDIAL WAbDIGIT EIGHTcFIVEcFOURcNINEcONEcSEVENcSIX
cTHREEcTWOcZERObLETTER AcAITON RAcAUcBAcBHAcCAcCHAcDAcDDAcDDHAcDHAcEcEASTERN PWO KAREN GHWAfNNAfYWAcGAcGHAcGREAT SAcHA
cIcIIcJAcJHAcKAcKHAcKHAMTI CAdCHAdDDAdDDHAdDHAdFAdGAdHAdHHAdJAdJHAdLLAdNAdNYAdRAdSAdTTAdTTHAdXAdZAcLAcLLAcMAcMON BBA
dBBEdEdJHAdNGAcNAcNGAcNNAcNNYAcNYAcOcPAcPHAcRAcRUMAI PALAUNG FAcSAcSGAW KAREN SHAcSHAcSHAN AdBAdBHAdCAdCHAdDAdFAdGA
dGHAdHAdJHAdKAdKHAdNAdNNAdNYAdPHAdTHAdZAcSHWE PALAUNG CHAeSHAcSSAcTAcTAI LAING BAeBHAeDAeDDAeDDHAeDHAeFAeGAeGHAeJAeJHA
eLLAeNNAeNYAcTHAcTTAcTTHAcUcUUcVOCALIC LdLLdRdRRcWAcWESTERN PWO KAREN PWAfTHAcYAbLOGOGRAM KHAMTI HMdOAYdQN
bMODIFIER LETTER KHAMTI REDUPLICATIONdSHAN REDUPLICATIONbSHAN DIGIT EIGHTdFIVEdFOURdNINEdONEdSEVENdSIXdTHREEdTWOdZERO
bSIGN ANUSVARAcASATcDOT BELOWcKHAMTI TONE-1e3cLITTLE SECTIONcPAO KAREN TONEcRUMAI PALAUNG TONE-5cSECTION
cSHAN COUNCIL EMPHATIC TONEeTONE-2f3dSAWdTONE-2e3e5e6cTAI LAING TONE-2f5cVIRAMAcVISARGAcWESTERN PWO KAREN TONE-1g2g3g4
g5bSYMBOL AFOREMENTIONEDcAITON EXCLAMATIONdONEdTWOcCOMPLETEDcGENITIVEcLOCATIVEcSHAN EXCLAMATIONdONE
bTAI LAING DIGIT EIGHTeFIVEeFOUReNINEeONEeSEVENeSIXeTHREEeTWOeZERObTONE MARK SGAW KAREN HATHIfKE PHObVOWEL SIGN AAdAI
dAITON AeAIdEdE ABOVEdGEBA KAREN IdIdIIdKAYAH EEeOEeUdMON IIeOdSGAW KAREN EUdSHAN AAeEeE ABOVEeFINAL YdTALL AAdUdUU
dVOCALIC LeLLeReRRdWESTERN PWO KAREN EUgUEaN-ARY CIRCLED DOT OPERATORdPLUS OPERATORdTIMES OPERATORcCOPRODUCT
cINTERSECTIONcLOGICAL ANDdORcPRODUCTcSQUARE INTERSECTION OPERATORdUNION OPERATORcSUMMATIONcTIMES OPERATORcUNION
cUNION OPERATOR WITH DOTfPLUScWHITE VERTICAL BARaNABATAEAN CRUCIFORM NUMBER FOURbLETTER ALEPHcAYINcBETHcDALETH
cFINAL ALEPHdBETHdHEdKAPHdLAMEDHdMEMdNUNdSHINdYODHcGIMELcHEcHETHcKAPHcLAMEDHcMEMcNUNcPEcQOPHcRESHcSADHEcSAMEKHcSHIN
cTAWcTETHcWAWcYODHcZAYINbNUMBER FIVEcFOURcONEcONE HUNDREDcTENcTHREEcTWENTYcTWOaNABLAaNAIL POLISHaNAIRA SIGNaNAK
aNAME BADGEaNANDaNANDINAGARI HEADSTROKEbLETTER AcAAcAIcAUcBAcBHAcCAcCHAcDAcDDAcDDHAcDHAcEcGAcGHAcHAcIcIIcJAcJHAcKAcKHA
cLAcLLAcMAcNAcNGAcNNAcNYAcOcPAcPHAcRAcRRAcSAcSHAcSSAcTAcTHAcTTAcTTHAcUcUUcVAcVOCALIC RdRRcYAbSIGN ANUSVARAcAVAGRAHA
cSIDDHAMcVIRAMAcVISARGAbVOWEL SIGN AAdAIdAUdEdIdIIdOdPRISHTHAMATRA EdUdUUdVOCALIC ReRRaNARROW NO-BREAK SPACE
aNATIONAL DIGIT SHAPESbPARKaNAUSEATED FACEaNAZAR AMULETaNBHaNBSPaNECKTIE
aNEGATED DOUBLE VERTICAL BAR DOUBLE RIGHT TURNSTILEaNEGATIVE ACKNOWLEDGEbCIRCLED DIGIT ZEROcLATIN CAPITAL LETTER AfBfC
fDfEfFfGfHfIfJfKfLfMfNfOfPfQfRfSfTfUfVfWfXfYfZcNUMBER EIGHTEENdELEVENdFIFTEENdFOURTEENdNINETEENdSEVENTEENdSIXTEEN
dTHIRTEENdTWELVEdTWENTYcSQUAREcTRIANGLEbDIAGONAL CROSScDIAMONDcMIDDLE RIGHT TO LOWER CENTREbSQUARED ABcCROSS MARKcIC
cLATIN CAPITAL LETTER AfBfCfDfEfFfGfHfIfJfKfLfMfNfOfPfQfRfSfTfUfVfWfXfYfZcPAcQUESTION MARKcSAcWC
aNEITHER A SUBSET OF NOR EQUAL TOcSUPERSET OF NOR EQUAL TObAPPROXIMATELY NOR ACTUALLY EQUAL TO
bGREATER-THAN NOR EQUAL TOeEQUIVALENT TOeLESS-THANbLESS-THAN NOR EQUAL TOeEQUIVALENT TOeGREATER-THANaNELaNEPTUNE
aNEPTUNE FORM TWOaNERD FACEaNESSUSaNEST WITH EGGSaNESTING DOLLSaNEUTERaNEUTRAL CHESS BISHOP
cBISHOP ROTATED NINETY DEGREESeTWO HUNDRED SEVENTY DEGREEScEQUIHOPPERcEQUIHOPPER ROTATED NINETY DEGREEScKING
cKING ROTATED NINETY DEGREESeTWO HUNDRED SEVENTY DEGREEScKNIGHTcKNIGHT ROTATED FORTY-FIVE DEGREESeNINETY DEGREES
eONE HUNDRED THIRTY-FIVE DEGREESeTHREE HUNDRED FIFTEEN DEGREESeTWO HUNDRED SEVENTY DEGREESgTWENTY-FIVE DEGREEScPAWN
cPAWN ROTATED NINETY DEGREESeTWO HUNDRED SEVENTY DEGREEScQUEENcQUEEN ROTATED NINETY DEGREES
eTWO HUNDRED SEVENTY DEGREEScROOKcROOK ROTATED NINETY DEGREESeTWO HUNDRED SEVENTY DEGREEScTURNED BISHOPdKINGdKNIGHT
dPAWNdQUEENdROOKbFACEaNEW LINEbMOON SYMBOLcWITH FACEbSHEQEL SIGNbTAI LUE DIGIT EIGHTeFIVEeFOUReNINEeONEeSEVENeSIX
eTHREEeTWOeZEROdLETTER FINAL BfDfKfMfNfNGfVeHIGH BAfDAfFAfHAfKAfKVAfLAfMAfNAfNGAfPAfPHAfQAfSAfSUAfTAfTHAfTSAfVAfXAfXVA
fYAeLOW BAfDAfFAfHAfKAfKVAfLAfMAfNAfNGAfPAfPHAfQAfSAfSUAfTAfTHAfTSAfVAfXAfXVAfYAdSIGN LAEeLAEVdTHAM DIGIT ONE
dTONE MARK-1f2dVOWEL SIGN AAfAAYfAEfAYfEfIIfIYfOfOAfOAYfOYfUfUEfUEYfUUfUYfVOWEL SHORTENERaNEWA ABBREVIATION SIGNbCOMMA
bDANDAbDIGIT EIGHTcFIVEcFOURcNINEcONEcSEVENcSIXcTHREEcTWOcZERObDOUBLE COMMAcDANDAbGAP FILLERbINSERTION SIGNbLETTER A
cAAcAIcAUcBAcBHAcCAcCHAcDAcDDAcDDHAcDHAcEcGAcGHAcHAcIcIIcJAcJHAcKAcKHAcLAcLHAcMAcMHAcNAcNGAcNGHAcNHAcNNAcNYAcNYHAcOcPA
cPHAcRAcRHAcSAcSHAcSSAcTAcTHAcTTAcTTHAcUcUUcVEDIC ANUSVARAcVOCALIC LdLLdRdRRcWAcYAbOMbPLACEHOLDER MARKbSANDHI MARK
bSIDDHIbSIGN ANUSVARAcAVAGRAHAcCANDRABINDUcFINAL ANUSVARAcJIHVAMULIYAcNUKTAcUPADHMANIYAcVIRAMAcVISARGAbVOWEL SIGN AA
dAIdAUdEdIdIIdOdUdUUdVOCALIC LeLLeReRRaNEWLINE LEFTbRIGHTaNEWSPAPERaNEXT LINEbPAGEaNIGHT WITH STARSaNINJA
aNKO COMBINING DOUBLE DOT ABOVEcLONG DESCENDING TONEdHIGH TONEdLOW TONEdRISING TONEcNASALIZATION MARKcSHORT HIGH TONE
dLOW TONEdRISING TONEbCOMMAbDANTAYALANbDIGIT EIGHTcFIVEcFOURcNINEcONEcSEVENcSIXcTHREEcTWOcZERObDOROME SIGN
bEXCLAMATION MARKbHIGH TONE APOSTROPHEbLAJANYALANbLETTER AcBAcCHAcDAcDAGBASINNAcEcEEcFAcGBAcHAcIcJAcJONA CHAdJAdRAcKA
cLAcMAcNcNAcNA WOLOSOcNYAcNYA WOLOSOcOcOOcPAcRAcRRAcSAcTAcUcWAcYAbLOW TONE APOSTROPHEbSYMBOL GBAKURUNENcOO DENNEN
bTAMAN SIGNaNLaNNBSPaNO BICYCLESbBREAK HEREbENTRYbENTRY SIGNbMOBILE PHONESbONE UNDER EIGHTEEN SYMBOLbPEDESTRIANS
bPIRACYbSMOKING SYMBOLaNO-BREAK SPACEaNOMINAL DIGIT SHAPESaNOMISMA SIGNaNON-BREAKING HYPHENbPOTABLE WATER SYMBOL
aNONFORKINGaNORaNORDIC MARK SIGNaNORMAL SUBGROUP OFcOF OR EQUAL TOaNORTH EAST AND SOUTH WEST ARROWcARROW
cARROW AND SOUTH EAST ARROWdCROSSING NORTH WEST ARROWeSOUTH EAST ARROWdWITH HOOKcBLACK ARROWcDOUBLE ARROWcPOINTING BUD
dLEAFdVINE LEAFcSANS-SERIF ARROWcTRIANGLE-HEADED ARROWeARROW TO BARcWHITE ARROWbINDIC FRACTION ONE EIGHTHeHALFeQUARTER
eSIXTEENTHdTHREE QUARTERSeSIXTEENTHScPLACEHOLDER MARKcQUANTITY MARKcQUARTER MARKcRUPEE MARKbWEST AND SOUTH EAST ARROW
cARROWcARROW AND NORTH EAST ARROWdCROSSING NORTH EAST ARROWdTO CORNEReLONG BARdWITH HOOKcBLACK ARROWcDOUBLE ARROW
cPOINTING BUDdLEAFdVINE LEAFcSANS-SERIF ARROWcTRIANGLE-HEADED ARROWeARROW TO BARcWHITE ARROW
aNORTHEAST-POINTING AIRPLANEaNOSEaNOT A SUBSET OFcSUPERSET OFbALMOST EQUAL TObAN ELEMENT OFbASYMPTOTICALLY EQUAL TO
bCHECK MARKbEQUAL TObEQUIVALENT TObGREATER-THANbIDENTICAL TObLESS-THANbNORMAL SUBGROUP OFdOF OR EQUAL TObPARALLEL TO
bSIGNbSQUARE IMAGE OF OR EQUAL TOcORIGINAL OF OR EQUAL TObTILDEbTRUEaNOTCHED LEFT SEMICIRCLE WITH THREE DOTS
bLOWER RIGHT-SHADOWED WHITE RIGHTWARDS ARROWbRIGHT SEMICIRCLE WITH THREE DOTS
bUPPER RIGHT-SHADOWED WHITE RIGHTWARDS ARROWaNOTEaNOTE PADbPAGEaNOTEBOOKaNOTEBOOK WITH DECORATIVE COVERaNULaNULL
aNUMBER EIGHTEEN FULL STOPbELEVEN FULL STOPbFIFTEEN FULL STOPbFOURTEEN FULL STOPbNINETEEN FULL STOP
bSEVENTEEN FULL STOPbSIGNbSIXTEEN FULL STOPbTEN FULL STOPbTHIRTEEN FULL STOPbTWELVE FULL STOPbTWENTY FULL STOP
aNUMERO SIGNaNUSHU CHARACTER-1B170c1B171c1B172c1B173c1B174c1B175c1B176c1B177c1B178c1B179c1B17Ac1B17Bc1B17Cc1B17Dc1B17E
c1B17Fc1B180c1B181c1B182c1B183c1B184c1B185c1B186c1B187c1B188c1B189c1B18Ac1B18Bc1B18Cc1B18Dc1B18Ec1B18Fc1B190c1B191
c1B192c1B193c1B194c1B195c1B196c1B197c1B198c1B199c1B19Ac1B19Bc1B19Cc1B19Dc1B19Ec1B19Fc1B1A0c1B1A1c1B1A2c1B1A3c1B1A4
c1B1A5c1B1A6c1B1A7c1B1A8c1B1A9c1B1AAc1B1ABc1B1ACc1B1ADc1B1AEc1B1AFc1B1B0c1B1B1c1B1B2c1B1B3c1B1B4c1B1B5c1B1B6c1B1B7
c1B1B8c1B1B9c1B1BAc1B1BBc1B1BCc1B1BDc1B1BEc1B1BFc1B1C0c1B1C1c1B1C2c1B1C3c1B1C4c1B1C5c1B1C6c1B1C7c1B1C8c1B1C9c1B1CA
c1B1CBc1B1CCc1B1CDc1B1CEc1B1CFc1B1D0c1B1D1c1B1D2c1B1D3c1B1D4c1B1D5c1B1D6c1B1D7c1B1D8c1B1D9c1B1DAc1B1DBc1B1DCc1B1DD
c1B1DEc1B1DFc1B1E0c1B1E1c1B1E2c1B1E3c1B1E4c1B1E5c1B1E6c1B1E7c1B1E8c1B1E9c1B1EAc1B1EBc1B1ECc1B1EDc1B1EEc1B1EFc1B1F0
c1B1F1c1B1F2c1B1F3c1B1F4c1B1F5c1B1F6c1B1F7c1B1F8c1B1F9c1B1FAc1B1FBc1B1FCc1B1FDc1B1FEc1B1FFc1B200c1B201c1B202c1B203
c1B204c1B205c1B206c1B207c1B208c1B209c1B20Ac1B20Bc1B20Cc1B20Dc1B20Ec1B20Fc1B210c1B211c1B212c1B213c1B214c1B215c1B216
c1B217c1B218c1B219c1B21Ac1B21Bc1B21Cc1B21Dc1B21Ec1B21Fc1B220c1B221c1B222c1B223c1B224c1B225c1B226c1B227c1B228c1B229
c1B22Ac1B22Bc1B22Cc1B22Dc1B22Ec1B22Fc1B230c1B231c1B232c1B233c1B234c1B235c1B236c1B237c1B238c1B239c1B23Ac1B23Bc1B23C
c1B23Dc1B23Ec1B23Fc1B240c1B241c1B242c1B243c1B244c1B245c1B246c1B247c1B248c1B249c1B24Ac1B24Bc1B24Cc1B24Dc1B24Ec1B24F
c1B250c1B251c1B252c1B253c1B254c1B255c1B256c1B257c1B258c1B259c1B25Ac1B25Bc1B25Cc1B25Dc1B25Ec1B25Fc1B260c1B261c1B262
c1B263c1B264c1B265c1B266c1B267c1B268c1B269c1B26Ac1B26Bc1B26Cc1B26Dc1B26Ec1B26Fc1B270c1B271c1B272c1B273c1B274c1B275
c1B276c1B277c1B278c1B279c1B27Ac1B27Bc1B27Cc1B27Dc1B27Ec1B27Fc1B280c1B281c1B282c1B283c1B284c1B285c1B286c1B287c1B288
c1B289c1B28Ac1B28Bc1B28Cc1B28Dc1B28Ec1B28Fc1B290c1B291c1B292c1B293c1B294c1B295c1B296c1B297c1B298c1B299c1B29Ac1B29B
c1B29Cc1B29Dc1B29Ec1B29Fc1B2A0c1B2A1c1B2A2c1B2A3c1B2A4c1B2A5c1B2A6c1B2A7c1B2A8c1B2A9c1B2AAc1B2ABc1B2ACc1B2ADc1B2AE
c1B2AFc1B2B0c1B2B1c1B2B2c1B2B3c1B2B4c1B2B5c1B2B6c1B2B7c1B2B8c1B2B9c1B2BAc1B2BBc1B2BCc1B2BDc1B2BEc1B2BFc1B2C0c1B2C1
c1B2C2c1B2C3c1B2C4c1B2C5c1B2C6c1B2C7c1B2C8c1B2C9c1B2CAc1B2CBc1B2CCc1B2CDc1B2CEc1B2CFc1B2D0c1B2D1c1B2D2c1B2D3c1B2D4
c1B2D5c1B2D6c1B2D7c1B2D8c1B2D9c1B2DAc1B2DBc1B2DCc1B2DDc1B2DEc1B2DFc1B2E0c1B2E1c1B2E2c1B2E3c1B2E4c1B2E5c1B2E6c1B2E7
c1B2E8c1B2E9c1B2EAc1B2EBc1B2ECc1B2EDc1B2EEc1B2EFc1B2F0c1B2F1c1B2F2c1B2F3c1B2F4c1B2F5c1B2F6c1B2F7c1B2F8c1B2F9c1B2FA
c1B2FBbITERATION MARKaNUT AND BOLTaNYIAKENG PUACHUE HMONG CIRCLED CAdDIGIT EIGHTeFIVEeFOUReNINEeONEeSEVENeSIXeTHREE
eTWOeZEROdLETTER AeAAeCAeDAeDLAeEeEEeFAeGAeHAeHAHeIeKAeLAeMAeMLAeNAeNCAeNKAeNPAeNPLAeNQAeNRAeNTAeNTSAeNTXAeNYAeOeOOePA
ePLAeQAeRAeRRAeSAeTAeTSAeTXAeUeVAeWeXAeXYAeYAeZAdLOGOGRAM NYAJdSIGN FOR ANIMALfINVERTEBRATEfLOCATIONfPERSONfTHING
eXW XWdSYLLABLE LENGTHENERdTONE-BeDeGeJeMeSeVaOBJECT REPLACEMENT CHARACTERaOBLIQUE ANGLE OPENING DOWNdUPbHYPHEN
aOBSERVER EYE SYMBOLaOCR AMOUNT OF CHECKbBELT BUCKLEbBOW TIEbBRANCH BANK IDENTIFICATIONbCHAIRbCUSTOMER ACCOUNT NUMBER
bDASHbDOUBLE BACKSLASHbFORKbHOOKbINVERTED FORKaOCTAGONAL SIGNaOCTOPUSaODENaOFFICE BUILDINGaOGHAM FEATHER MARK
bLETTER AILMcBEITHcCEIRTcCOLLcDAIRcEABHADHcEADHADHcEAMHANCHOLLcFEARNcGORTcIFINcIODHADHcLUIScMUINcNGEADALcNIONcONNcOR
cPEITHcRUIScSAILcSTRAIFcTINNEcUATHcUILLEANNcURbREVERSED FEATHER MARKbSPACE MARKaOGONEKaOHM SIGNaOIL DRUMaOK HAND SIGN
aOL CHIKI AHADcDIGIT EIGHTdFIVEdFOURdNINEdONEdSEVENdSIXdTHREEdTWOdZEROcGAAHLAA TTUDDAAGcLETTER AAJdAAKdAAMdAAWdAGdAL
dANGdATdEDDdENdEPdERRdIHdINYdIRdISdLAdLAAdLEdLIdLOdLUdOBdOHdOTTdOVdUCdUDdUNNdUYcMU TTUDDAGcMU-GAAHLAA TTUDDAAG
cPHAARKAAcPUNCTUATION DOUBLE MUCAADdMUCAADcRELAAaOLD CHINESE HOOK MARKcITERATION MARKbHUNGARIAN CAPITAL LETTER AeAAeAK
eAMBeANDeCLOSE EeEeEBeECeECHeECSeEDeEEeEFeEGeEGYeEHeEJeEKeELeELYeEMeEMPeENeENCeENTeENT-SHAPED SIGNeENYeEPeEReESeESZeET
eETYeEVeEZeEZSeIeIIeNIKOLSBURG OEfUEeOeOEEeOOeRUDIMENTA OEfUEeSHORT EReUeUNKeUSeUUcNUMBER FIFTYdFIVEdONEdONE HUNDRED
eTHOUSANDdTENcSMALL LETTER AeAAeAKeAMBeANDeCLOSE EeEeEBeECeECHeECSeEDeEEeEFeEGeEGYeEHeEJeEKeELeELYeEMeEMPeENeENCeENT
eENT-SHAPED SIGNeENYeEPeEReESeESZeETeETYeEVeEZeEZSeIeIIeNIKOLSBURG OEfUEeOeOEEeOOeRUDIMENTA OEfUEeSHORT EReUeUNKeUSeUU
bITALIC LETTER AdBEdCHEdDEdEdEFdEKSdELdEMdENdERdERSdESdESHdESSdHEdIdIIdKAdKEdKHEdKUdNORTHERN TSEdOdPEdPHEdSHE
dSOUTHERN TSEdTEdTHEdUdUUdVEdYEdZEcNUMERAL FIFTYdFIVEdONEdTENbKEYbNORTH ARABIAN LETTER AINeALEFeBEHeDADeDALeES-1f2f3
eFEHeGEEMeGHAINeHAHeHEHeKAFeKHAHeLAMeMEEMeNOONeQAFeREHeSADeTAHeTEHeTHALeTHEHeWAWeYEHeZAHeZAINdNUMBER ONEeTENeTWENTY
bPERMIC LETTER ANdBURdCHERYdDOIdDZHOIdDZITAdEdEFdGAIdHAdIdIAdIEdKOKEdLEIdMENOEdNENOEdOdOOdPEEIdREIdSHCHOOIdSHOOIdSII
dTAIdTSIUdUdVERdVOOIdYAdYATdYERdYERIdYERUdYRYdYUdZATAdZHOIbPERSIAN NUMBER HUNDREDdONEdTENdTWENTYdTWOcSIGN AdAURAMAZDAA
dAURAMAZDAA-2dAURAMAZDAAHAdBAdBAGAdBUUMISHdCAdDAdDAHYAAUSHdDAHYAAUSH-2dDIdDUdFAdGAdGUdHAdIdJAdJIdKAdKUdLAdMAdMIdMUdNA
dNUdPAdRAdRUdSAdSHAdSSAdTAdTHAdTUdUdVAdVIdXAdXSHAAYATHIYAdYAdZAcWORD DIVIDERbPERSONAL COMPUTER
bSOGDIAN FRACTION ONE HALFcLETTER ALEPHdALTERNATE AYINdAYINdBETHdFINAL ALEPHeBETHeHEeNUNeNUN WITH VERTICAL TAILeSADHE
eSADHE WITH VERTICAL TAILeTAWeTAW WITH VERTICAL TAILdGIMELdHEdHETHdKAPHdLAMEDHdMEMdNUNdPEdRESH-AYIN-DALETHdSADHE
dSAMEKHdSHINdTAWdWAWdYODHdZAYINcLIGATURE AYIN-DALETHcNUMBER FIVEdFOURdONEdONE HUNDREDdTENdTHIRTYdTHREEdTWENTYdTWO
bSOUTH ARABIAN LETTER ALEFeAYNeBETHeDALETHeDHADHEeDHALETHeFEeGHAYNeGIMELeHEeHETHeKAPHeKHETHeLAMEDHeMEMeNUNeQOPHeRESH
eSADHEeSAMEKHeSATeSHINeTAWeTETHeTHAWeTHETHeWAWeYODHeZAYNdNUMBER FIFTYeONEdNUMERIC INDICATORbTURKIC LETTER ORKHON AeAB
eADeAEBeAEDeAEGeAEKeAELeAENeAEReAESeAETeAEYeAGeALeANeAQeAReASeASHeATeAYeBASHeECeELTeEMeENCeENGeENTeENYeEPeESHeEZeIeIC
eIQeOeOEeOEKeOPeOQeOTdYENISEI AeABeADeAEeAEBeAEGeAEKeAENeAENGeAETeAEYeAGeALeANGeAQeAReASHeATeAYeEeECeENCeENTeENYeESH
eEZeIeIQeOEeOEKeOQbUYGHUR COMBINING DOT ABOVEeBELOWdTWO DOTS ABOVEfBELOWcLETTER ALEPHdBETHdFINAL HETHdGIMEL-HETHdKAPH
dLAMEDHdLESHdMEMdNUNdPEdRESHdSADHEdSAMEKHdSHINdTAWdWAWdYODHdZAYINcPUNCTUATION BARdFOUR DOTSdTWO BARSeDOTSaOLDER ADULT
bMANbWOMANaOLIVEaOM SYMBOLaON WITH EXCLAMATION MARK WITH LEFT RIGHT ARROW ABOVEaONCOMING AUTOMOBILEbBUSbFIRE ENGINE
bPOLICE CARbTAXIaONE BUTTON MOUSEbDOT LEADERcOVER TWO DOTS PUNCTUATIONaONE-PIECE SWIMSUITaONIONaOPEN BOOKbBOX
bCENTRE ASTERISKcBLACK STARcCROSScTEARDROP-SPOKED ASTERISKbFILE FOLDERbFOLDERbHANDS SIGNbLOCK
bMAILBOX WITH LOWERED FLAGdRAISED FLAGbSUBSETbSUPERSETaOPEN-CIRCUIT-OUTPUT H-TYPE SYMBOLdL-TYPE SYMBOL
bOUTLINED RIGHTWARDS ARROWaOPERATING SYSTEM COMMANDaOPHIUCHUSaOPPOSITIONaOPTICAL DISCbDISC ICONaOPTION KEY
aOR WITH DOT INSIDEaORANGE BOOKbHEARTaORANGUTANaORIGINAL OFaORIYA AI LENGTH MARKbAU LENGTH MARKbDIGIT EIGHTcFIVEcFOUR
cNINEcONEcSEVENcSIXcTHREEcTWOcZERObFRACTION ONE EIGHTHdHALFdQUARTERdSIXTEENTHcTHREE QUARTERSdSIXTEENTHSbISSHAR
bLETTER AcAAcAIcAUcBAcBHAcCAcCHAcDAcDDAcDDHAcDHAcEcGAcGHAcHAcIcIIcJAcJHAcKAcKHAcLAcLLAcMAcNAcNGAcNNAcNYAcOcPAcPHAcRA
cRHAcRRAcSAcSHAcSSAcTAcTHAcTTAcTTHAcUcUUcVAcVOCALIC LdLLdRdRRcWAcYAcYYAbSIGN ANUSVARAcAVAGRAHAcCANDRABINDUcNUKTA
cOVERLINEcVIRAMAcVISARGAbVOWEL SIGN AAdAIdAUdEdIdIIdOdUdUUdVOCALIC LeLLeReRRaORNATE LEFT PARENTHESISbRIGHT PARENTHESIS
aORTHODOX CROSSaOSAGE CAPITAL LETTER AdAHdAIdAINdBRAdCHAdDHAdEdEHCHAdEHKAdEHPAdEHTAdEHTSAdEINdGHAdHAdHYAdIdKAdKHAdKYA
dLAdMAdNAdOdOINdPAdSAdSHAdTAdTSAdTSHAdUdWAdZAdZHAbSMALL LETTER AdAHdAIdAINdBRAdCHAdDHAdEdEHCHAdEHKAdEHPAdEHTAdEHTSA
dEINdGHAdHAdHYAdIdKAdKHAdKYAdLAdMAdNAdOdOINdPAdSAdSHAdTAdTSAdTSHAdUdWAdZAdZHAaOSCaOSMANYA DIGIT EIGHTcFIVEcFOURcNINE
cONEcSEVENcSIXcTHREEcTWOcZERObLETTER AcAAcALEFcBAcCAYNcDEELcDHAcEcEEcFAcGAcHAcIcJAcKAAFcKHAcLAANcMIINcNUUNcOcOOcQAAF
cRAcSAcSHIINcTAcUcWAWcXAcYAaOTTERaOTTOMAN SIYAQ ALTERNATE NUMBER EIGHTeFIVEeFOUReFOUR HUNDREDeNINEeSEVENeSIX
eSIX HUNDREDeTENeTEN THOUSANDeTHREEeTWOeTWO THOUSANDcFRACTION ONE HALFeSIXTHcMARRATANcNUMBER EIGHTdEIGHT HUNDRED
eTHOUSANDdEIGHTYdEIGHTY THOUSANDdFIFTYdFIFTY THOUSANDdFIVEdFIVE HUNDREDeTHOUSANDdFORTYdFORTY THOUSANDdFOUR
dFOUR HUNDREDeTHOUSANDdNINEdNINE HUNDREDeTHOUSANDdNINETYdNINETY THOUSANDdONEdONE HUNDREDeTHOUSANDdSEVENdSEVEN HUNDRED
eTHOUSANDdSEVENTYdSEVENTY THOUSANDdSIXdSIX HUNDREDeTHOUSANDdSIXTYdSIXTY THOUSANDdTENdTEN THOUSANDdTHIRTY
dTHIRTY THOUSANDdTHREEdTHREE HUNDREDeTHOUSANDdTWENTYdTWENTY THOUSANDdTWOdTWO HUNDREDeTHOUSANDaOUNCE SIGNaOUTBOX TRAY
aOUTLINED BLACK STARbGREEK CROSSbLATIN CROSSbWHITE STARaOVERHEATED FACEaOVERLAPaOVERLAPPING BLACK SQUARES
bWHITE AND BLACK SQUAREScSQUARESaOVERLINEaOWLaOXaOYSTERaPACKAGEaPADaPADDING CHARACTERaPAGEaPAGE FACING UP
bWITH CIRCLED TEXTcCURLaPAGERaPAGESaPAGODAaPAHAWH HMONG CLAN SIGN FAJeHAMeHAWJeKHABeKOOeKWMeLAUJeLISeMUASePHABeTHOJ
eTSABeTSHEEJeTSWBeVAJeVWJeXYOOJeYAJeYEEGcCONSONANT AUdCAUdCHAUdHAUdHLAUdHNAUdLAUdMAUdNAUdNCHAUdNKAUdNLAUdNTHAUdNTSAU
dPLHAUdQHAUdRAUdVAUdXAUdYAUcDIGIT EIGHTdFIVEdFOURdNINEdONEdSEVENdSIXdTHREEdTWOdZEROcMARK CIM HOMeKESeKHAVeSOeSUAMeTAUM
eTUBcNUMBER HUNDRED MILLIONSdHUNDREDSdMILLIONSdTEN BILLIONSeTHOUSANDSdTENSdTRILLIONScSIGN AVdCIM CHEEMeCUAM TSHOOJ
eHAIS LUS NTOG NTOGeNRES TOSePUB DAWBeTSOV ROGeTXWVeTXWV CHWVdHLIdHNUBdIB YAMdLOSdMEEJ SUABeTSEEBdMUSdNQIGdNTUJdTAU
dTHIRD-STAGE HLIdTXHEEJ CEEVdVOS FEEMeLUBeNRUAeSEEVeTHIABeTHOMeTSHAB CEEBdXAUSdXIABdXYEEM FAIBeNTXIVeRHOeTOVdXYOO
dZWJ THAJcVOWEL KAABdKAAVdKABdKAIBdKAIVdKAUBdKAUVdKAVdKAWBdKAWVdKEBdKEEBdKEEVdKEVdKIABdKIAVdKIBdKIVdKOBdKOOBdKOOVdKOV
dKUABdKUAVdKUBdKUVdKWBdKWVaPALLASaPALM BRANCHbDOWN HANDbTREEbUP HANDaPALMS UP TOGETHERaPALMYRENE LEFT-POINTING FLEURON
bLETTER ALEPHcAYINcBETHcDALETHcFINAL NUNcGIMELcHEcHETHcKAPHcLAMEDHcMEMcNUNcPEcQOPHcRESHcSADHEcSAMEKHcSHINcTAWcTETHcWAW
cYODHcZAYINbNUMBER FIVEcFOURcONEcTENcTHREEcTWENTYcTWObRIGHT-POINTING FLEURONaPANCAKESaPANDA FACEaPAPERCLIPaPARACHUTE
aPARAGRAPH SEPARATORaPARAGRAPHOSaPARAGRAPHUS MARKaPARALLEL TObWITH HORIZONTAL STROKEcTILDE OPERATOR
aPARENTHESIZED DIGIT EIGHTcFIVEcFOURcNINEcONEcSEVENcSIXcTHREEcTWObHANGUL CHIEUCHcCHIEUCH AcCIEUCcCIEUC AdUcHIEUH
cHIEUH AcIEUNGcIEUNG AcKHIEUKHcKHIEUKH AcKIYEOKcKIYEOK AcMIEUMcMIEUM AcNIEUNcNIEUN AcPHIEUPHcPHIEUPH AcPIEUPcPIEUP A
cRIEULcRIEUL AcSIOScSIOS AcTHIEUTHcTHIEUTH AcTIKEUTcTIKEUT AbIDEOGRAPH ALLIANCEcCALLcCONGRATULATIONcEARTHcEIGHT
cENTERPRISEcFESTIVALcFINANCIALcFIREcFIVEcFOURcHAVEcLABORcMETALcMOONcNAMEcNINEcONEcREACHcREPRESENTcRESOURCEcRESTcSELF
cSEVENcSIXcSOCIETYcSPECIALcSTOCKcSTUDYcSUNcSUPERVISEcTENcTHREEcTWOcWATERcWOODbKOREAN CHARACTER O HUdOJEON
bLATIN CAPITAL LETTER AeBeCeDeEeFeGeHeIeJeKeLeMeNeOePeQeReSeTeUeVeWeXeYeZcSMALL LETTER AeBeCeDeEeFeGeHeIeJeKeLeMeNeOeP
eQeReSeTeUeVeWeXeYeZbNUMBER EIGHTEENcELEVENcFIFTEENcFOURTEENcNINETEENcSEVENTEENcSIXTEENcTENcTHIRTEENcTWELVEcTWENTY
aPARROTaPART ALTERNATION MARKaPARTIAL DIFFERENTIALbLINE BACKWARDcDOWNcFORWARDcUPaPARTIALLY-RECYCLED PAPER SYMBOL
aPARTNERSHIP SIGNaPARTY POPPERaPASSED SYMBOLaPASSENGER SHIPaPASSIVE-PULL-DOWN-OUTPUT SYMBOLcUP-OUTPUT SYMBOL
aPASSPORT CONTROLaPAU CIN HAU GLOTTAL STOPeSTOP FINALfVARIANTdLETTER AeBAeCAeCHAeDAeEeFAeFINAL KfLfMfNfNGfPfTfWfYeGA
eHAeIeIAeKAeKHAeLAeMAeNAeNGAeOePAePHAeRAeSAeTAeTHAeUeUAeVAeZAdLOW-FALLING TONEfTONE FINALgLONGgLONG FINAL
dMID-LEVEL TONEfTONE FINALgLONG FINALdRISING TONEeTONE FINALfLONGfLONG FINALdSANDHI GLOTTAL STOPfSTOP FINALeTONE
eTONE FINALfLONGfLONG FINALaPAW PRINTSaPDFaPDIaPEACE SYMBOLaPEACHaPEACOCKaPEANUTSaPEARaPEDESTRIAN
aPEN OVER STAMPED ENVELOPEaPENCILaPENGUINaPENSIVE FACEaPENTAGRAMaPEOPLE HUGGINGaPER MILLE SIGNbSIGNbTEN THOUSAND SIGN
aPERCENT SIGNaPERFORMING ARTSaPERMANENT PAPER SIGNaPERPENDICULARaPERPENDICULAR WITH SaPERSEVERING FACE
aPERSON BOWING DEEPLYbCLIMBINGbDOING CARTWHEELbFROWNINGbIN LOTUS POSITIONcSTEAMY ROOM
bRAISING BOTH HANDS IN CELEBRATIONbWITH BALLcBLOND HAIRcCROWNcFOLDED HANDScHEADSCARFcPOUTING FACEaPERSONAL COMPUTER
aPERSPECTIVEaPESETA SIGNaPESO SIGNaPETRI DISHaPHAGS-PA DOUBLE HEAD MARKcLETTER AdALTERNATE YAdASPIRATED FAdBAdCA
dCANDRABINDUdCHAdDAdDDAdDZAdEdEEdFAdGAdGGAdHAdIdJAdKAdKHAdLAdMAdNAdNGAdNNAdNYAdOdPAdPHAdQAdRAdSAdSHAdSMALL AdTAdTHA
dTSAdTSHAdTTAdTTHAdUdVOICED HAdVOICELESS SHAdWAdXAdYAdZAdZHAcMARK DOUBLE SHADdSHADcSINGLE HEAD MARK
cSUBJOINED LETTER RAeWAeYAcSUPERFIXED LETTER RAaPHAISTOS DISC SIGN ARROWdBEEdBEEHIVEdBOOMERANGdBOWdBULLS LEGdCAPTIVE
dCARPENTRY PLANEdCATdCHILDdCLUBdCOLUMNdCOMBdCOMBINING OBLIQUE STROKEdDOLIUMdDOVEdEAGLEdFLUTEdGAUNTLETdGRATERdHELMET
dHIDEdHORNdLIDdLILYdMANACLESdMATTOCKdOX BACKdPAPYRUSdPEDESTRIANdPLANE TREEdPLUMED HEADdRAMdROSETTEdSAWdSHIELDdSHIP
dSLINGdSMALL AXEdSTRAINERdTATTOOED HEADdTIARAdTUNNYdVINEdWAVY BANDdWOMANaPHILIPPINE DOUBLE PUNCTUATION
bSINGLE PUNCTUATIONaPHOENICIAN LETTER AINcALFcBETcDELTcGAMLcHEcHETcKAFcLAMDcMEMcNUNcPEcQOFcROSHcSADEcSEMKcSHINcTAUcTET
cWAUcYODcZAIbNUMBER ONEcONE HUNDREDcTENcTHREEcTWENTYcTWObWORD SEPARATORaPHOLUSaPICKaPICKUP TRUCKaPIEaPIGaPIG FACEbNOSE
aPILCROW SIGNaPILE OF POOaPILLaPINATAaPINCHED FINGERSaPINCHING HANDaPINE DECORATIONaPINEAPPLEaPINWHEEL STARaPISCES
aPISTOLaPITCHFORKaPITCHFORK WITH TEE TOPaPLACARDaPLACE OF INTEREST SIGNcWORSHIPaPLANCK CONSTANTbCONSTANT OVER TWO PI
aPLAYGROUND SLIDEaPLAYING CARD ACE OF CLUBSeDIAMONDSeHEARTSeSPADEScBACKcBLACK JOKERcEIGHT OF CLUBSeDIAMONDSeHEARTS
eSPADEScFIVE OF CLUBSeDIAMONDSeHEARTSeSPADEScFOOLcFOUR OF CLUBSeDIAMONDSeHEARTSeSPADEScJACK OF CLUBSeDIAMONDSeHEARTS
eSPADEScKING OF CLUBSeDIAMONDSeHEARTSeSPADEScKNIGHT OF CLUBSeDIAMONDSeHEARTSeSPADEScNINE OF CLUBSeDIAMONDSeHEARTS
eSPADEScQUEEN OF CLUBSeDIAMONDSeHEARTSeSPADEScRED JOKERcSEVEN OF CLUBSeDIAMONDSeHEARTSeSPADEScSIX OF CLUBSeDIAMONDS
eHEARTSeSPADEScTEN OF CLUBSeDIAMONDSeHEARTSeSPADEScTHREE OF CLUBSeDIAMONDSeHEARTSeSPADEScTRUMP-1d10d11d12d13d14d15d16
d17d18d19d2d20d21d3d4d5d6d7d8d9cTWO OF CLUBSeDIAMONDSeHEARTSeSPADEScWHITE JOKERaPLDaPLUaPLUNGERaPLUS SIGN
bSIGN ABOVE EQUALS SIGNcIN LEFT HALF CIRCLEdRIGHT HALF CIRCLEdTRIANGLEcWITH BLACK TRIANGLEdCIRCUMFLEX ACCENT ABOVE
dDOT BELOWdSMALL CIRCLE ABOVEdSUBSCRIPT TWOdTILDE ABOVEeBELOWaPLUS-MINUS SIGNaPLUTOaPLUTO FORM FIVEcFOURcTHREEcTWOaPM
aPOCKET CALCULATORaPOLICE CARbCARS REVOLVING LIGHTbOFFICERaPOODLEaPOP DIRECTIONAL FORMATTINGcISOLATEaPOPCORN
aPORTABLE STEREOaPOSEIDONaPOSITION INDICATORaPOSTAL HORNbMARKbMARK FACEaPOSTBOXaPOT OF FOODaPOTABLE WATER SYMBOL
aPOTATOaPOTTED PLANTaPOUCHaPOULTRY LEGaPOUND SIGNaPOURING LIQUIDaPOUTING CAT FACEbFACEaPOWER ON SYMBOLbON-OFF SYMBOL
bSLEEP SYMBOLbSYMBOLaPRAYER BEADSaPRECEDESaPRECEDES ABOVE ALMOST EQUAL TOcEQUALS SIGNcNOT ALMOST EQUAL TOdEQUAL TO
cSINGLE-LINE EQUALS SIGNeNOT EQUAL TObBUT NOT EQUIVALENT TObOR EQUAL TOcEQUIVALENT TObUNDER RELATIONaPREGNANT MAN
bPERSONbWOMANaPRESCRIPTION TAKEaPRESENTATION FORM FOR VERTICAL COLONeCOMMAeEM DASHeEN DASHeEXCLAMATION MARK
eHORIZONTAL ELLIPSISeIDEOGRAPHIC COMMAfFULL STOPeLEFT ANGLE BRACKETfBLACK LENTICULAR BRACKETfCORNER BRACKET
fCURLY BRACKETfDOUBLE ANGLE BRACKETfPARENTHESISfSQUARE BRACKETfTORTOISE SHELL BRACKETfWHITE CORNER BRACKET
gLENTICULAR BRACKETeLOW LINEeQUESTION MARKeRIGHT ANGLE BRACKETfBLACK LENTICULAR BRACKETfCORNER BRACKETfCURLY BRACKET
fDOUBLE ANGLE BRACKETfPARENTHESISfSQUARE BRACKETfTORTOISE SHELL BRACKETfWHITE CORNER BRACKETgLENTICULAR BRACKET
hBRAKCETeSEMICOLONeTWO DOT LEADEReWAVY LOW LINEaPRETZELaPREVIOUS PAGEaPRIMEaPRINCEaPRINCESSaPRINT SCREEN SYMBOL
aPRINTERaPRINTER ICONaPRIVACY MESSAGEaPRIVATE USE ONEcTWObUSE-1c2aPROBING CANEaPROHIBITED SIGNaPROJECTIVE
aPROPERTY LINEaPROPORTIONaPROPORTIONAL TOaPROSERPINAaPSALTER PAHLAVI FOUR DOTS WITH CROSSfDOTcLETTER ALEPHdBETHdDALETH
dGIMELdHEdHETHdKAPHdLAMEDHdMEM-QOPHdNUNdPEdSADHEdSAMEKHdSHINdTAWdWAW-AYIN-RESHdYODHdZAYINcNUMBER FOURdONEdONE HUNDRED
dTENdTHREEdTWENTYdTWOcSECTION MARKcTURNED SECTION MARKaPU1aPU2aPUBLIC ADDRESS LOUDSPEAKERaPUNCTUATION SPACE
aPUNCTUS ELEVATUS MARKaPURPLE HEARTaPURSEaPUSHPINaPUT LITTER IN ITS PLACE SYMBOLaQUADRANT LOWER LEFTcRIGHTbUPPER LEFT
cLEFT AND LOWER LEFT AND LOWER RIGHTfRIGHTeUPPER RIGHT AND LOWER LEFTiRIGHTcRIGHTcRIGHT AND LOWER LEFT
fLEFT AND LOWER RIGHTaQUADRUPLE INTEGRAL OPERATORbPRIMEaQUARTER NOTEaQUATERNION INTEGRAL OPERATOR
aQUESTION EXCLAMATION MARKbMARKaQUESTIONED EQUAL TOaQUINCUNXaQUOTATION MARKaRABBITaRABBIT FACEaRACCOONaRACING CAR
bMOTORCYCLEaRADICAL SYMBOL BOTTOMaRADIOaRADIO BUTTONaRADIOACTIVE SIGNaRAILWAY CARbTRACKaRAINaRAINBOW
aRAISED BACK OF HANDbCOMMAbDOTbDOTTED INTERPOLATION MARKERbFISTbHANDbHAND WITH FINGERS SPLAYED
dPART BETWEEN MIDDLE AND RING FINGERSbINTERPOLATION MARKERbMC SIGNbMD SIGNbMR SIGNbSQUAREaRAMaRATaRATIOaRAZORaRECEIPT
aRECORD SEPARATORaRECREATIONAL VEHICLEaRECYCLED PAPER SYMBOLaRECYCLING SYMBOL FOR GENERIC MATERIALSdTYPE-1 PLASTICS
e2 PLASTICSe3 PLASTICSe4 PLASTICSe5 PLASTICSe6 PLASTICSe7 PLASTICSaRED APPLEbGIFT ENVELOPEaREFERENCE MARK
aREGIONAL INDICATOR SYMBOL LETTER AeBeCeDeEeFeGeHeIeJeKeLeMeNeOePeQeReSeTeUeVeWeXeYeZaREGISTERED SIGN
aREJANG CONSONANT SIGN HdNdNGdRbLETTER AcBAcCAcDAcGAcHAcJAcKAcLAcMAcMBAcNAcNDAcNGAcNGGAcNYAcNYJAcPAcRAcSAcTAcWAcYA
bSECTION MARKbVIRAMAbVOWEL SIGN AIdAUdEdEAdEUdIdOdUaRELIEVED FACEaREMINDER RIBBONaREPLACEMENT CHARACTERaRESPONSE
aRESTRICTED LEFT ENTRY-1d2aRESTROOMaRETURN LEFTbRIGHTbSYMBOLaREVERSE CHECKER BOARDbINDEX
bLIGHT FOUR POINTED PINWHEEL STARbLINE FEEDbSOLIDUSbSOLIDUS OPERATORcPRECEDING SUBSETcWITH HORIZONTAL STROKE
bTILDE OPERATOR ABOVE LEFTWARDS ARROWeRIGHTWARDS ARROWaREVERSED ANGLEbANGLE WITH UNDERBARbCOMMAbDOUBLE PRIME
cPRIME QUOTATION MARKcSTROKE NOT SIGNbEMPTY SETbFORKED PARAGRAPHOSbHAND WITH MIDDLE FINGER EXTENDEDbNOT SIGN
bPILCROW SIGNbPRIMEbQUESTION MARKbRAISED HAND WITH FINGERS SPLAYEDbRIGHT ANGLEbROTATED FLORAL HEART BULLET
bSANS-SERIF CAPITAL LbSEMICOLONbTHUMBS DOWN SIGNcUP SIGNbTILDEbTILDE EQUALSbTRIPLE PRIMEbVICTORY HANDaREVOLVING HEARTS
aRHINOCEROSaRIaRIAL SIGNaRIBBONaRIBBON ARROW DOWN LEFTdRIGHTcLEFT DOWNdUPcRIGHT DOWNdUPcUP LEFTdRIGHTaRICE BALL
bCRACKERaRIFLEaRIGHT AND LOWER ONE EIGHTH BLOCKcUPPER ONE EIGHTH BLOCKbANGER BUBBLEbANGLEbANGLE BRACKET
cBRACKET WITH DOTcDOTTED SUBSTITUTION MARKERcSUBSTITUTION MARKERcVARIANT WITH SQUAREcWITH ARCdDOWNWARDS ZIGZAG ARROW
bARC GREATER-THAN BRACKETbARROW WITH CIRCLED PLUSdSMALL CIRCLEbBLACK LENTICULAR BRACKETcTORTOISE SHELL BRACKETbCEILING
bCORNER BRACKETbCURLY BRACKETcBRACKET LOWER HOOKdMIDDLE PIECEdUPPER HOOKbDOTTED SUBSTITUTION BRACKET
bDOUBLE ANGLE BRACKETcARROW WITH ROUNDED HEADcPARENTHESIScQUOTATION MARKcWIGGLY FENCEbFISH TAILbFIVE EIGHTHS BLOCK
bFLOORbHALF BLACK CIRCLEdSTARcBLOCKcFOLDERcMEDIUM SHADEcRUNNING MANbHAND TELEPHONE RECEIVERbLOW PARAPHRASE BRACKET
bNORMAL FACTOR SEMIDIRECT PRODUCTbONE EIGHTH BLOCKcQUARTER BLOCKbOPEN SQUARED DOTbOUTER JOINbPARENTHESIS
bPARENTHESIS EXTENSIONcLOWER HOOKcUPPER HOOKbRAISED OMISSION BRACKETbS-SHAPED BAG DELIMITERbSEMIDIRECT PRODUCT
bSEVEN EIGHTHS BLOCKbSIDEWAYS U BRACKETbSINGLE QUOTATION MARKbSPEAKERbSPEAKER WITH ONE SOUND WAVEdTHREE SOUND WAVES
bSPEECH BUBBLEbSQUARE BRACKETcBRACKET EXTENSIONdLOWER CORNERdUPPER CORNERdWITH DOUBLE STROKEeQUILLeSTROKE
eTICK IN BOTTOM CORNERgTOP CORNEReUNDERBARbSUBSTITUTION BRACKETbTACKbTHIRD WHITE RIGHT POINTING INDEXbTHOUGHT BUBBLE
bTHREE EIGHTHS BLOCKcQUARTERS BLOCKbTORTOISE SHELL BRACKETbTRANSPOSITION BRACKETbTRIANGLEbTRIANGLE ABOVE LEFT TRIANGLE
bTRIANGULAR ONE QUARTER BLOCKbVERTICAL BAR WITH QUILLcBOX LINEbWHITE CORNER BRACKETcCURLY BRACKETcLENTICULAR BRACKET
cPARENTHESIScSQUARE BRACKETcTORTOISE SHELL BRACKETbWIGGLY FENCEaRIGHT-FACING ARMENIAN ETERNITY SIGNcFISTcSVASTI SIGN
dSIGN WITH DOTSbHANDED INTERLACED PENTAGRAMbPOINTING ANGLE BRACKETcCURVED ANGLE BRACKETcDOUBLE ANGLE QUOTATION MARK
cMAGNIFYING GLASSbSHADED WHITE RIGHTWARDS ARROWbSIDE ARC CLOCKWISE ARROWbTO-LEFT EMBEDDINGdISOLATEdMARKdOVERRIDE
aRIGHTHAND INTERIOR PRODUCTaRIGHTWARDS ARROWbARROW ABOVE ALMOST EQUAL TOdREVERSE ALMOST EQUAL TOeTILDE OPERATOR
dSHORT LEFTWARDS ARROWdTILDE OPERATORcAND UPPER AND LOWER ONE EIGHTH BLOCKcFROM BARdBAR TO BLACK DIAMOND
cOVER LEFTWARDS ARROWcTHROUGH GREATER-THANdSUPERSETdXcTO BARdBLACK DIAMONDcWITH CORNER DOWNWARDSdDOTTED STEM
dDOUBLE VERTICAL STROKEdEQUILATERAL ARROWHEADdHOOKdLARGE TRIANGLE ARROWHEADdLOOPdMEDIUM TRIANGLE ARROWHEAD
dNOTCHED TAILdPLUS BELOWdSMALL EQUILATERAL ARROWHEADeTRIANGLE ARROWHEADdSTROKEdTAILdTAIL WITH DOUBLE VERTICAL STROKE
fVERTICAL STROKEdTIP DOWNWARDSeUPWARDSdVERTICAL STROKEbARROW-TAILbBACK-TILTED SHADOWED WHITE ARROWbBLACK ARROW
cCIRCLED WHITE ARROWbBOTTOM SHADED WHITE ARROWbCOMPRESSED ARROWbDASHED ARROWbDOUBLE ARROWcARROW FROM BARdWITH STROKE
eVERTICAL STROKEcARROW-TAILcDASH ARROWbFINGER-POST ARROWbFRONT-TILTED SHADOWED WHITE ARROWbHAND
bHARPOON OVER LEFTWARDS HARPOONcWITH BARB DOWN ABOVE LEFTWARDS HARPOON WITH BARB DOWNfBELOW LONG DASHfFROM BARfTO BAR
eDOWNWARDSeUP ABOVE LEFTWARDS HARPOON WITH BARB UPgLONG DASHgRIGHTWARDS HARPOON WITH BARB DOWNfFROM BARfTO BAReUPWARDS
bHEAVY ARROWcCOMPRESSED ARROWbLEFT-SHADED WHITE ARROWbOPEN-HEADED ARROWbPAIRED ARROWSbQUADRUPLE ARROW
bRIGHT-SHADED WHITE ARROWbROCKETbSANS-SERIF ARROWbSQUARED ARROWbSQUIGGLE ARROWbTOP SHADED WHITE ARROW
bTRIANGLE ARROWHEADbTRIANGLE-HEADED ARROWdARROW OVER LEFTWARDS TRIANGLE-HEADED ARROWeTO BAReWITH BOLD SHAFT
fDOUBLE HORIZONTAL STROKEgVERTICAL STROKEfHEAVY SHAFTfLONG TIP DOWNWARDShUPWARDSfMEDIUM SHAFTfNARROW SHAFT
fVERY HEAVY SHAFTdDASHED ARROWdPAIRED ARROWSbTRIPLE ARROWcDASH ARROWbTWO HEADED ARROWbTWO-HEADED ARROW FROM BAR
eWITH DOUBLE VERTICAL STROKEfTAILfTAIL WITH DOUBLE VERTICAL STROKEhVERTICAL STROKEfTRIANGLE ARROWHEADSfVERTICAL STROKE
dTRIPLE DASH ARROWbWAVE ARROWbWHITE ARROWcARROW FROM WALLdWITHIN TRIANGLE ARROWHEADaRINGaRING ABOVEbBUOYbEQUAL TO
bIN EQUAL TObOPERATORbPOINTaRINGED PLANETaRINGING BELLaRISING DIAGONAL CROSSING FALLING DIAGONALdSOUTH EAST ARROWaRLE
aRLIaRLMaRLOaROASTED SWEET POTATOaROBOT FACEaROCKaROCKETaROLL OF PAPERaROLLED-UP NEWSPAPERaROLLER COASTERbSKATE
aROLLING ON THE FLOOR LAUGHINGaROMAN AS SIGNbCENTURIAL SIGNbDENARIUS SIGNbDIMIDIA SEXTULA SIGNbDUPONDIUS SIGN
bNUMERAL EIGHTcELEVENcFIFTYcFIFTY EARLY FORMdTHOUSANDcFIVEcFIVE HUNDREDdTHOUSANDcFOURcNINEcONEcONE HUNDRED
dHUNDRED THOUSANDdTHOUSANDdTHOUSAND C DcREVERSED ONE HUNDREDcSEVENcSIXcSIX LATE FORMcTENcTEN THOUSANDcTHREEcTWELVEcTWO
bQUINARIUS SIGNbSEMUNCIA SIGNbSESTERTIUS SIGNbSEXTANS SIGNbSEXTULA SIGNbSILIQUA SIGNbUNCIA SIGNaROOSTERaROSEaROSETTE
aROTATED CAPITAL QbFLORAL HEART BULLETbHEAVY BLACK HEART BULLETbLIGHT FOUR POINTED BLACK CUSPbWHITE FOUR POINTED CUSP
aROUND PUSHPINbTARGETaROUNDED SYMBOL FOR CAIdFUdLUdSHOUdSHUANGXIdXIaROWBOATaRSaRUBLE SIGNaRUGBY FOOTBALLaRULE-DELAYED
aRUMI DIGIT EIGHTcFIVEcFOURcNINEcONEcSEVENcSIXcTHREEcTWObFRACTION ONE HALFdQUARTERdTHIRDcTWO THIRDS
bNUMBER EIGHT HUNDREDcEIGHTYcFIFTYcFIVE HUNDREDcFORTYcFOUR HUNDREDcNINE HUNDREDcNINETYcONE HUNDREDcSEVEN HUNDRED
cSEVENTYcSIX HUNDREDcSIXTYcTENcTHIRTYcTHREE HUNDREDcTWENTYcTWO HUNDREDaRUNIC ARLAUG SYMBOLbBELGTHOR SYMBOL
bCROSS PUNCTUATIONbLETTER AC AcAESCcALGIZ EOLHXcANSUZ AcBERKANAN BEORC BJARKAN BcCcCALCcCEALCcCENcCWEORTHcD
cDAGAZ DAEG DcDOTTED-LdNdPcEcEARcEHWAZ EH EcENGcETHcFEHU FEOH FE FcFRANKS CASKET ACeAESCeEHeISeOScGcGARcGEBO GYFU G
cGERcHAEGL HcHAGLAZ HcICELANDIC-YRcINGcINGWAZcIORcISAZ IS ISS IcIWAZ EOHcJERAN JcKcKAUN KcKAUNAcLAUKAZ LAGU LOGR L
cLONG-BRANCH-AR AEeHAGALL HeMADR MeOSS OeYRcMANNAZ MAN McNAUDIZ NYD NAUD NcOcOEcONcOOcOPEN-PcOS OcOTHALAN ETHEL O
cPERTHO PEORTH PcQcRAIDO RAD REID RcSHcSHORT-TWIG-AR AeBJARKAN BeHAGALL HeMADR MeNAUD NeOSS OeSOL SeTYR TeYR
cSIGEL LONG-BRANCH-SOL ScSOWILO ScSTANcTHURISAZ THURS THORNcTIWAZ TIR TYR TcURUZ UR UcVcWcWUNJO WYNN WcXcYcYRcZ
bMULTIPLE PUNCTUATIONbSINGLE PUNCTUATIONbTVIMADUR SYMBOLaRUNNERaRUNNING SHIRT WITH SASHaRUPEE SIGN
aRUSSIAN ASTROLOGICAL SYMBOL BINOVILEdNOVILEdQUINTILEdSENTAGONdTREDECILEdVIGINTILEaS IN TRIANGLEaSAFETY PINbVEST
aSAGITTARIUSaSAILBOATaSAKE BOTTLE AND CUPaSALT SHAKERaSALTIREaSALUTING FACEaSAMARITAN ABBREVIATION MARKbLETTER ALAF
cBAAcBITcDALATcFIcGAMANcINcITcIYcKAAFcLABATcMIMcNUNcQUFcRISHcSHANcSINGAATcTAAFcTITcTSAADIYcYUTcZENbMARK DAGESH
cEPENTHETIC YUTcINcIN-ALAFcNEQUDAAcOCCLUSIONbMODIFIER LETTER EPENTHETIC YUTdIdSHORT AbPUNCTUATION AFSAAQcANGEDcANNAAU
cARKAANUcATMAAUcBAUcMELODIC QITSAcNEQUDAAcQITSAcSHIYYAALAAcSOF MASHFAATcTURUcZAEFcZIQAAbVOWEL SIGN AdAAdEdIdLONG AeAA
eEeIeUdOdOVERLONG AeAAdSHORT AdSUKUNdUaSANDWICHaSANS-SERIF HEAVY DOUBLE COMMA QUOTATION MARK ORNAMENT
eTURNED COMMA QUOTATION MARK ORNAMENTdLOW DOUBLE COMMA QUOTATION MARK ORNAMENTcINTERROBANG ORNAMENTaSARIaSATELLITE
aSATELLITE ANTENNAaSATURNaSAURASHTRA CONSONANT SIGN HAARUbDANDAbDIGIT EIGHTcFIVEcFOURcNINEcONEcSEVENcSIXcTHREEcTWO
cZERObDOUBLE DANDAbLETTER AcAAcAIcAUcBAcBHAcCAcCHAcDAcDDAcDDHAcDHAcEcEEcGAcGHAcHAcIcIIcJAcJHAcKAcKHAcLAcLLAcMAcNAcNGA
cNNAcNYAcOcOOcPAcPHAcRAcSAcSHAcSSAcTAcTHAcTTAcTTHAcUcUUcVAcVOCALIC LdLLdRdRRcYAbSIGN ANUSVARAcCANDRABINDUcVIRAMA
cVISARGAbVOWEL SIGN AAdAIdAUdEdEEdIdIIdOdOOdUdUUdVOCALIC LeLLeReRRaSAUROPODaSAXOPHONEaSCALESaSCARFaSCHOOL
aSCHOOL SATCHELaSCIaSCOOTERaSCORPIONaSCORPIUSaSCREENaSCREWDRIVERaSCRIPT CAPITAL BcEcFcHcIcLcMcPcRbLIGATURE ET ORNAMENT
bSMALL EcGcLcOaSCROLLaSCRUPLEaSEALaSEATaSECOND PLACE MEDALaSECTION SIGNaSECTORaSEDNAaSEE-NO-EVIL MONKEYaSEEDLING
aSEGMENTaSEGMENTED DIGIT EIGHTcFIVEcFOURcNINEcONEcSEVENcSIXcTHREEcTWOcZEROaSELFIEaSEMICOLON
aSEMIDIRECT PRODUCT WITH BOTTOM CLOSEDaSEMISEXTILEaSEPARATED SYMBOLaSERIOUS FACE WITH SYMBOLS COVERING MOUTH
aSERVICE MARKaSESAME DOTaSESQUIQUADRATEaSET MINUSbTRANSMIT STATEaSEWING NEEDLEaSEXTILEaSGCaSHADOWED WHITE CIRCLE
cLATIN CROSScSTARaSHALLOW PAN OF FOODaSHAMROCKaSHARADA ABBREVIATION SIGNbCONTINUATION SIGNbDANDAbDIGIT EIGHTcFIVEcFOUR
cNINEcONEcSEVENcSIXcTHREEcTWOcZERObDOUBLE DANDAbEKAMbEXTRA SHORT VOWEL MARKbHEADSTROKEbLETTER AcAAcAIcAUcBAcBHAcCAcCHA
cDAcDDAcDDHAcDHAcEcGAcGHAcHAcIcIIcJAcJHAcKAcKHAcLAcLLAcMAcNAcNGAcNNAcNYAcOcPAcPHAcRAcSAcSHAcSSAcTAcTHAcTTAcTTHAcUcUU
cVAcVOCALIC LdLLdRdRRcYAbOMbSANDHI MARKbSECTION MARK-1d2bSEPARATORbSIGN ANUSVARAcAVAGRAHAcCANDRABINDU
cINVERTED CANDRABINDUcJIHVAMULIYAcNUKTAcSIDDHAMcUPADHMANIYAcVIRAMAcVISARGAbSUTRA MARKbVOWEL MODIFIER MARKcSIGN AAdAI
dAUdEdIdIIdOdPRISHTHAMATRA EdUdUUdVOCALIC LeLLeReRRaSHARKaSHAVED ICEaSHAVIAN LETTER ADOcAGEcAHcAIRcAREcARRAYcASHcAWE
cBIBcCHURCHcDEADcEARcEATcEGGcERRcFEEcGAGcHA-HAcHUNGcIANcICEcIFcJUDGEcKICKcLOLLcMEASUREcMIMEcNUNcOAKcOILcONcOOZEcORcOUT
cPEEPcROARcSOcSUREcTHEYcTHIGHcTOTcUPcVOWcWOEcWOOLcYEAcYEWcZOOaSHEEPaSHIELDaSHIFT INbOUTaSHINTO SHRINEaSHIP
aSHOCKED FACE WITH EXPLODING HEADaSHOOTING STARaSHOPPING BAGSbTROLLEYaSHORT BACKSLANTED SOUTH ARROW
bBENT ARROW POINTING DOWNWARDS THEN NORTH EASTbDOWN TACKcTACK WITH OVERBARbLEFT TACK
bRIGHTWARDS ARROW ABOVE LEFTWARDS ARROWbSLANTED NORTH ARROWbUP TACKcTACK ABOVE SHORT DOWN TACKdWITH UNDERBARaSHORTCAKE
aSHORTHAND FORMAT CONTINUING OVERLAPcDOWN STEPcLETTER OVERLAPcUP STEPaSHORTSaSHOULDERED OPEN BOXaSHOWERaSHRIMPaSHRUG
aSHUFFLE PRODUCTaSHYaSIaSIDDHAM DANDAbDOUBLE DANDAbEND OF TEXT MARKbLETTER AcAAcAIcALTERNATE UcAUcBAcBHAcCAcCHAcDAcDDA
cDDHAcDHAcEcGAcGHAcHAcIcIIcJAcJHAcKAcKHAcLAcMAcNAcNGAcNNAcNYAcOcPAcPHAcRAcSAcSHAcSSAcTAcTHAcTHREE-CIRCLE ALTERNATE I
cTTAcTTHAcTWO-CIRCLE ALTERNATE IfIIcUcUUcVAcVOCALIC LdLLdRdRRcYAbREPETITION MARK-1d2d3bSECTION MARK DOUBLE RING
eRING WITH RAYSdWITH CIRCLES AND FOUR ENCLOSURESgRAYSgTWO ENCLOSURESeDOUBLE CRESCENTSeQUADRUPLE CRESCENTS
eRAYS AND DOTTED CRESCENTShDOUBLE CRESCENTShTRIPLE CRESCENTSeSEPTUPLE CRESCENTSeTRIDENT AND DOTTED CRESCENTS
gU-SHAPED ORNAMENTSeTRIPLE CRESCENTSbSEPARATOR BARcDOTbSIGN ANUSVARAcCANDRABINDUcNUKTAcSIDDHAMcVIRAMAcVISARGA
bVOWEL SIGN AAdAIdALTERNATE UeUUdAUdEdIdIIdOdUdUUdVOCALIC ReRRaSIDEWAYS BLACK DOWN POINTING INDEXcLEFT POINTING INDEX
cRIGHT POINTING INDEXcUP POINTING INDEXbWHITE DOWN POINTING INDEXcLEFT POINTING INDEXcRIGHT POINTING INDEX
cUP POINTING INDEXaSIGN OF THE HORNSaSIGNWRITING AIR BLOW SMALL ROTATIONScBLOWING OUTcSUCK SMALL ROTATIONScSUCKING IN
bBREATH EXHALEcINHALEbBRUSH BETWEENcMULTIPLEcSINGLEbCHEEKS NEUTRALcPUFFEDcSUCKEDbCOLONbCOMMA
bDREAMY EYEBROWS DOWN NEUTRALdNEUTRAL DOWNeUPdUP NEUTRALbDYNAMIC ARROWHEAD LARGEdSMALLcEVERY OTHER TIMEcFASTcGRADUAL
cRELAXEDcSIMULTANEOUScSIMULTANEOUS ALTERNATINGcSLOWcTENSEbEARSbEXCITEMENTbEYE BLINK MULTIPLEdSINGLEcWINK
bEYEBROWS STRAIGHT DOWNdNEUTRALdUPbEYEGAZE-FLOORPLANE CURVEDdSTRAIGHTdSTRAIGHT ALTERNATINGeDOUBLEcWALLPLANE CIRCLING
dCURVEDdSTRAIGHTdSTRAIGHT ALTERNATINGeDOUBLEbEYELASHES DOWNcFLUTTERINGcUPbEYES CLOSEDcHALF CLOSEDdOPENcOPENcSQUEEZED
cWIDE OPENcWIDENING MOVEMENTbFACE DIRECTION POSITION NOSE FORWARD TILTINGfUP OR DOWNhDOWN TILTINGbFILL MODIFIER-2d3d4
d5d6bFINGERbFLICK LARGE MULTIPLEdSINGLEcSEQUENTIALcSMALL MULTIPLEdSINGLEbFLOORPLANE SHOULDER HIP MOVEbFOREHEAD CONTACT
cNEUTRALcWRINKLEDbFULL STOPbGRASP BETWEENcMULTIPLEcSINGLEbHAIRbHAND-ANGLEcANGLE INDEXdINDEX MIDDLE LITTLEfRING
eRING LITTLEfLITTLE OUTeTHUMBeTHUMB INfOUTdLITTLE INDEXeINDEX THUMB INDEX THUMBhTHUMB OUTeUPdMIDDLE RING LITTLE
fLITTLE INgOUTdRING DOWN MIDDLE THUMB INDEX CROSSeLITTLEcCIRCLEcCIRCLE INDEXdINDEX BENTeHINGEeMIDDLE
eMIDDLE CROSS LITTLEfCROSSEDfLITTLEfRINGfTHUMBeRING LITTLEdLITTLE INDEXeUPdMIDDLE RING LITTLEfLITTLE BENTeUP
dRING LITTLEcCLAWcCLAW FOUR FINGERS CONJOINEDdINDEX THUMB CURVE THUMB INSIDEdMIDDLE RING LITTLE CONJOINED
gCONJOINED SIDEdNO THUMBdTHUMB FORWARDeSIDEcCUPcCUP FIVE FINGERS SPREADfSPREAD OPENdINDEXdINDEX RING LITTLEeTHUMB
eTHUMB OPENdMIDDLE RING LITTLEdNO THUMBdOPENdOPEN NO THUMBeTHUMB FORWARDfSIDEdTHUMB FORWARDeSIDEcCURLICUE
cCURLICUE INDEX RING LITTLE ONdMIDDLE RING LITTLE ONdOPENcFISTcFIST FOUR FINGERS CONJOINED BENTdHEELdINDEXdINDEX BENT
eBENT OVER MIDDLEeCUPPEDeHINGEDeHINGED LOWfMIDDLE UPgUP THUMB SIDEeMIDDLEeMIDDLE BENTfBENT THUMB STRAIGHTfCONJOINED
fCONJOINED CUPPEDgCUPPED THUMB FORWARDgHINGEDgHINGED THUMB SIDEgINDEX BENTgMIDDLE BENTgTHUMB FORWARDhSIDEhSIDE BENT
iCONJOINEDfCROSS LITTLEfCROSSEDfCROSSED THUMB SIDEfHINGEDfHINGED SPREAD THUMB SIDEfLITTLEfRAISED KNUCKLESfRING
fRING BENTgCONJOINEDfSTRAIGHT THUMB BENTfTHUMBfTHUMB ANGLEDgANGLED OUTgBENTgCIRCLEDgCONJOINED HINGEDgCUPPEDgHINGED
gHOOKEDfUP SPREAD THUMB FORWARDeRAISED KNUCKLEeRING LITTLEeTHUMB ANGLED IN MIDDLE UPgOUT MIDDLE UPfCIRCLE
fCIRCLED MIDDLE UPfCUPPED MIDDLE UPfCURLICUEfCURVE THUMB INSIDEhUNDERfFORWARD INDEX BENThSTRAIGHTfHOOK
fHOOKED MIDDLE HINGEDhUPfSIDEfSIDE BOTH BENTgINDEX BENThHINGEgTHUMB BENThCONJOINEDhDIAGONALeUP MIDDLE HINGED
gHINGED THUMB CONJOINEDiSIDEdLITTLE BENTeDOWNeDOWN OTHERS CIRCLEDfRIPPLE CURVEDgSTRAIGHTeINDEXeINDEX THUMB
eRAISED KNUCKLEeTHUMBeTOUCHES THUMBeUPdMIDDLE BENT OVER INDEXeDOWNeLITTLEeRAISED KNUCKLEeRING LITTLE
eTHUMB ANGLED INDEX UPgOUT INDEX CROSSEDiUPfCIRCLED INDEX HINGEDhUPfCUPPED INDEX UPfHOOKED INDEX UPfLITTLEeUP
eUP THUMB SIDEdRING DOWNeINDEXeLITTLEeMIDDLEeMIDDLE CONJOINEDfRAISED KNUCKLESeRAISED KNUCKLEeTHUMBeUPdTHUMB
dTHUMB BETWEEN INDEX MIDDLEgMIDDLE STRAIGHTfMIDDLE RINGfRING LITTLEeFORWARDeHEELeOVER FOUR RAISED KNUCKLESfTWO FINGERS
eSIDE BENTfCONJOINEDfDIAGONALeUNDER FOUR FINGERSfINDEX BENTfLITTLE UPfTHREE FINGERSfTWO FINGERScFLAT
cFLAT BETWEEN PALM FACINGSdFIVE FINGERS SPREADfSPREAD BENTgFOUR BENTgHINGEDgHINGED NO THUMBhTHUMB SIDEgTHUMB FORWARD
dFOUR FINGERSeFINGERS BENTfCONJOINEDfCONJOINED SPLITfHINGEDdHEELdHEEL FIVE FINGERS SPREADgSPREAD BENThFOUR BENT
eTHUMB SIDEdSPLIT CENTREeCENTRE THUMB SIDEgSIDE BENTeINDEX THUMB SIDEeLITTLEdTHUMB BENTeFORWARDeSIDEcHINGE
cHINGE FIVE FINGERS SPREAD OPENdFOUR FINGERS CONJOINEDdINDEXdINDEX HINGEDeMIDDLE LITTLEfRINGfRING CONJOINED
eRING LITTLEeTHUMBeTHUMB LARGEfOPENfSIDEfSMALLdLITTLEdLITTLE INDEXeINDEX THUMBeTHUMBdMIDDLEdMIDDLE RING LITTLE
dNO THUMBdOPENdOPEN NO THUMBeTHUMB FORWARDfSIDEdRINGdRING DOWN INDEX THUMB HOOK MIDDLEdSMALLdTHUMB BETWEEN MIDDLE RING
eSIDEeSIDE TOUCHING INDEXcHOOKcHOOK CURLICUEdINDEX RING LITTLE INgOUTgUNDERdMIDDLE RING LITTLE CONJOINEDgCONJOINED IN
hOUTeTHUMBdRING THUMBcOVALcOVAL FIVE FINGERS SPREADdINDEXdLITTLE UPdNO THUMBdRING LITTLEdTHUMB FORWARDeSIDEbHEAD
bHEAD MOVEMENT CIRCLEcMOVEMENT-FLOORPLANE CURVEeSTRAIGHTdWALLPLANE CURVEeSTRAIGHTeTILTcRIMbLIMB COMBINATIONcLENGTH-1d2
d3d4d5d6d7bLIP LOWER OVER UPPERcUPPER OVER LOWERbLIPS PRESSED TOGETHERbLOCATION DEPTHcHEAD NECKcHEIGHTcLIMBS DIGITS
cTORSOcWIDTHbLOCATION-FLOORPLANE SPACEcWALLPLANE SPACEbMOUTH CLOSED CONTACTdFORWARDdNEUTRALcCORNERScFROWNcFROWN OPEN
dWRINKLEDcKISScKISS FORWARDdWRINKLEDcOPEN CIRCLEdFORWARDdOVALdOVAL WRINKLEDeYAWNdRECTANGLEdRECTANGLE WRINKLEDeYAWN
dWRINKLEDcSMILEcSMILE OPENdWRINKLEDcTENSEcTENSE FORWARDdSUCKEDcWRINKLES DOUBLEdSINGLEbMOVEMENT-DIAGONAL AWAY LARGE
eLARGESTeMEDIUMeSMALLdBETWEEN AWAY LARGEfLARGESTfMEDIUMfSMALLeTOWARDS LARGEfLARGESTfMEDIUMfSMALLdTOWARDS LARGEeLARGEST
eMEDIUMeSMALLcFLOORPLANE ARM CIRCLE HITTING WALL LARGE DOUBLEiSINGLEhMEDIUM DOUBLEiSINGLEhSMALL DOUBLEiSINGLEdBEND
dBOX LARGEeMEDIUMeSMALLdCHECKdCORNER LARGEeMEDIUMeSMALLdCROSSdCURVE COMBINEDeHITTING CEILING LARGEgSMALLfFLOOR LARGE
gSMALLeLARGEeLARGESTeMEDIUMeSMALLdDOUBLE ALTERNATINGeALTERNATING WRIST FLEXeSTRAIGHTeWRIST FLEX
dFINGER CIRCLES HITTING WALL DOUBLEhSINGLEeCONTACTdHUMP HITTING CEILING LARGE DOUBLEhTRIPLEgSMALL DOUBLEhTRIPLE
fFLOOR LARGE DOUBLEgSMALL DOUBLEgTRIPLE LARGE TRIPLEhSMALL TRIPLEeSMALLdJAWdLOOP HITTING CEILING LARGE DOUBLEhSINGLE
gSMALL DOUBLEhSINGLEfFLOOR LARGE DOUBLEhSINGLEgSMALL DOUBLEhSINGLEeSMALLdPEAKS LARGEeMEDIUMeSMALLdSHAKING PARALLEL
dSINGLE STRAIGHT LARGEfLARGESTfMEDIUMfSMALLeWRIST FLEXdTRIPLE ALTERNATING MOVEMENTfWRIST FLEXeSTRAIGHT MOVEMENT
eWRIST FLEXdWAVE HITTING CEILING LARGEgSMALLfFLOOR LARGEgSMALLeLARGEeSMALLeSNAKEdWRIST CIRCLE HITTING WALL DOUBLE
hSINGLEdZIGZAG LARGEeMEDIUMeSMALLcHINGE DOWN SEQUENTIALdSIDE TO SIDE SCISSORSdUP DOWN ALTERNATING LARGEgSMALLfLARGE
fSMALLeSEQUENTIALcWALLPLANE ARM CIRCLE MEDIUM DOUBLEgSINGLEfSMALL DOUBLEgSINGLEdBEND LARGEeMEDIUMeSMALLdBOX LARGE
eMEDIUMeSMALLdCHECK LARGEeMEDIUMeSMALLdCORNER LARGEeMEDIUMeROTATIONeSMALLdCROSSdCURVE HALF-CIRCLE LARGEgLARGESTgMEDIUM
gSMALLeHITTING CHESTfFRONT WALLeQUARTER LARGEfLARGESTfMEDIUMfSMALLeTHEN STRAIGHTeTHREE-QUARTER CIRCLE MEDIUMhSMALL
dCURVED CROSS MEDIUMfSMALLdDOUBLE ALTERNATINGeALTERNATING WRIST FLEXeSTRAIGHTeWRIST FLEXdFINGER CIRCLES DOUBLEfSINGLE
eCONTACTdHUMP HITTING CHESTfFRONT WALLeLARGEeMEDIUMeSMALLdJAWdLOOP HITTING CHESTfFRONT WALLeLARGEeMEDIUMeSMALL
eSMALL DOUBLEdPEAKS LARGEeMEDIUMeSMALLdSHAKINGdSINGLE STRAIGHT LARGEfLARGESTfMEDIUMfSMALLeWRIST FLEX
dTRIPLE ALTERNATINGeALTERNATING WRIST FLEXeSTRAIGHT MOVEMENTeWRIST FLEXdWAVE CURVE DOUBLE LARGEgMEDIUMgSMALL
fTRIPLE LARGEgMEDIUMgSMALLeDIAGONAL PATH LARGEgMEDIUMgSMALLeHITTING CHESTfFRONT WALLdWRIST CIRCLE FRONT DOUBLEgSINGLE
dZIGZAG LARGEeMEDIUMeSMALLbNECKbNOSE CONTACTcNEUTRALcWIGGLEScWRINKLESbPARENTHESISbROTATION MODIFIER-10d11d12d13d14d15
d16d2d3d4d5d6d7d8d9bROTATION-FLOORPLANE ALTERNATINGdALTERNATING HITTING CEILINGfFLOORdDOUBLEdDOUBLE HITTING CEILING
fFLOORdSINGLEdSINGLE HITTING CEILINGfFLOORcWALLPLANE ALTERNATEdALTERNATING HITTING CHESTfFRONT WALLdDOUBLE
dDOUBLE HITTING CHESTfFRONT WALLdSINGLEdSINGLE HITTING CHESTfFRONT WALLbRUB BETWEENcMULTIPLEcSINGLEbSEMICOLON
bSHOULDER HIP POSITIONSdSPINEcTILTING FROM WAISTbSQUEEZE FLICK ALTERNATINGcLARGE MULTIPLEdSINGLEcSEQUENTIAL
cSMALL MULTIPLEdSINGLEbSTRIKE BETWEENcMULTIPLEcSINGLEbSURFACE BETWEENcSYMBOLSbTEETHbTEETH BITE LIPScMOVEMENTcON LIPS
dLIPS MOVEMENTdTONGUEdTONGUE MOVEMENTbTENSE CHEEKS HIGHdLOWdMIDDLEbTONGUE CENTRE INSIDE MOUTHdSTICKING OUT
cINSIDE MOUTH RELAXEDcLICKING LIPScMOVES AGAINST CHEEKcSTICKING OUT FARcTIP BETWEEN LIPSdTOUCHING INSIDE MOUTH
bTORSO-FLOORPLANE TWISTINGcWALLPLANE CURVED BENDdSTRAIGHT STRETCHbTOUCH BETWEENcMULTIPLEcSINGLE
bTRAVEL-FLOORPLANE ROTATION-FLOORPLANE ALTERNATINGfDOUBLEfSINGLEeWALLPLANE ALTERNATINGfDOUBLEfSINGLEdSHAKING
cWALLPLANE ARM SPIRAL DOUBLEfSINGLEfTRIPLEdROTATION-FLOORPLANE ALTERNATINGfDOUBLEfSINGLEeWALLPLANE ALTERNATINGfDOUBLE
fSINGLEdSHAKINGbUPPER BODY TILTING FROM HIP JOINTSbWALLPLANE SHOULDER HIP MOVEaSILHOUETTE OF JAPAN
aSIMILAR ABOVE GREATER-THAN ABOVE EQUALS SIGNcLESS-THAN ABOVE EQUALS SIGNbMINUS SIMILARbOR GREATER-THANcLESS-THAN
aSINE WAVEaSINGLE CHARACTER INTRODUCERbGRAPHIC CHARACTER INTRODUCERbHIGH-REVERSED-9 QUOTATION MARK
bLEFT-POINTING ANGLE QUOTATION MARKbLOW-9 QUOTATION MARKbRIGHT-POINTING ANGLE QUOTATION MARKbSHIFT THREEcTWO
aSINGLE-SHIFT-2c3aSINHALA ARCHAIC DIGIT EIGHTdFIVEdFOURdNINEdONEdSEVENdSIXdTHREEdTWOcNUMBER EIGHTYdFIFTYdFORTYdNINETY
dONE HUNDREDeTHOUSANDdSEVENTYdSIXTYdTENdTHIRTYdTWENTYbLETTER AAYANNAcAEEYANNAcAEYANNAcAIYANNAcALPAPRAANA BAYANNA
dCAYANNAdDAYANNAdDDAYANNAdGAYANNAdJAYANNAdKAYANNAdPAYANNAdTAYANNAdTTAYANNAcAMBA BAYANNAcAUYANNAcAYANNAcDANTAJA LAYANNA
dNAYANNAdSAYANNAcEEYANNAcEYANNAcFAYANNAcHAYANNAcIIYANNAcILUUYANNAcILUYANNAcIRUUYANNAcIRUYANNAcIYANNA
cKANTAJA NAASIKYAYAcMAHAAPRAANA BAYANNAdCAYANNAdDAYANNAdDDAYANNAdGAYANNAdJAYANNAdKAYANNAdPAYANNAdTAYANNAdTTAYANNA
cMAYANNAcMUURDHAJA LAYANNAdNAYANNAdSAYANNAcOOYANNAcOYANNAcRAYANNAcSANYAKA DAYANNAdDDAYANNAdGAYANNAdJAYANNA
cTAALUJA NAASIKYAYAdSANYOOGA NAAKSIKYAYAdSAYANNAcUUYANNAcUYANNAcVAYANNAcYAYANNAbLITH DIGIT EIGHTdFIVEdFOURdNINEdONE
dSEVENdSIXdTHREEdTWOdZERObPUNCTUATION KUNDDALIYAbSIGN AL-LAKUNAcANUSVARAYAcCANDRABINDUcVISARGAYAbVOWEL SIGN AELA-PILLA
dDIGA AEDA-PILLAeGAETTA-PILLAeGAYANUKITTAeIS-PILLAeKOMBUVAePAA-PILLAdGAETTA-PILLAdGAYANUKITTAdKETTI AEDA-PILLA
eIS-PILLAePAA-PILLAdKOMBU DEKAdKOMBUVAdKOMBUVA HAA AELA-PILLAfDIGA AELA-PILLAfGAYANUKITTA
aSIX PETALLED BLACK AND WHITE FLORETTEbPOINTED BLACK STARcPINWHEEL STARcSTAR WITH MIDDLE DOTaSIX-PER-EM SPACE
aSIXTEEN POINTED ASTERISKaSKATEBOARDaSKI AND SKI BOOTaSKIERaSKULLaSKULL AND CROSSBONESaSKUNK
aSLANTED EQUAL TO OR GREATER-THANfTHAN WITH DOT INSIDEeLESS-THANfTHAN WITH DOT INSIDEbNORTH ARROW WITH HOOKED HEAD
eHORIZONTAL TAILaSLAVONIC ASTERISKaSLEDaSLEEPING ACCOMMODATIONbFACEbSYMBOLaSLEEPY FACEaSLEUTH OR SPYaSLICE OF PIZZA
aSLIGHTLY FROWNING FACEbSMILING FACEaSLOPEaSLOPING LARGE ANDcORaSLOT MACHINEaSLOTHaSMALL AIRPLANEbAMPERSANDbASTERISK
bBLUE DIAMONDbCOLONbCOMMAbCOMMERCIAL ATbCONTAINS AS MEMBERcWITH OVERBARdVERTICAL BAR AT END OF HORIZONTAL STROKE
bDOLLAR SIGNbELEMENT OFcOF WITH OVERBAReVERTICAL BAR AT END OF HORIZONTAL STROKEbEM DASHbEQUALS SIGNbEXCLAMATION MARK
bFULL STOPbGREATER-THAN SIGNbHYPHEN-MINUSbIDEOGRAPHIC COMMAbLEFT CURLY BRACKETcPARENTHESIScTORTOISE SHELL BRACKET
bLESS-THAN SIGNbNUMBER SIGNbORANGE DIAMONDbPERCENT SIGNbPLUS SIGNbQUESTION MARKbREVERSE SOLIDUSbRIGHT CURLY BRACKET
cPARENTHESIScTORTOISE SHELL BRACKETbROMAN NUMERAL EIGHTdELEVENdFIFTYdFIVEdFIVE HUNDREDdFOURdNINEdONEdONE HUNDRED
eTHOUSANDdSEVENdSIXdTENdTHREEdTWELVEdTWObSEMICOLONbTILDEbTWO DOTS OVER ONE DOT PUNCTUATIONbVEE WITH UNDERBAR
aSMALLER THANbTHAN OR EQUAL TOaSMASH PRODUCTaSMILEaSMILING CAT FACE WITH HEART-SHAPED EYESeOPEN MOUTHbFACE WITH HALO
dHEART-SHAPED EYESdHORNSdOPEN MOUTHeMOUTH AND COLD SWEATgSMILING EYESgTIGHTLY-CLOSED EYESdSMILING EYES
eEYES AND HAND COVERING MOUTHgTHREE HEARTSdSUNGLASSESdTEARaSMIRKING FACEaSMOKING SYMBOLaSNAILaSNAKEaSNEEZING FACE
aSNOW CAPPED MOUNTAINaSNOWBOARDERaSNOWFLAKEaSNOWMANaSNOWMAN WITHOUT SNOWaSOaSOCCER BALLaSOCKSaSOFT HYPHENbICE CREAM
bSHELL FLOPPY DISKaSOFTBALLaSOFTWARE-FUNCTION SYMBOLaSOGDIAN COMBINING CURVE ABOVEdBELOWcDOT ABOVEdBELOWcHOOK ABOVE
dBELOWcLONG HOOK BELOWcRESH BELOWcSTROKE BELOWcTWO DOTS ABOVEeBELOWbINDEPENDENT SHINbLETTER ALEPHcAYINcBETHcFETHcGIMEL
cHEcHETHcKAPHcLAMEDHcLESHcMEMcNUNcPEcRESH-AYINcSADHEcSAMEKHcSHINcTAWcWAWcYODHcZAYINbNUMBER ONEcONE HUNDREDcTENcTWENTY
bPUNCTUATION CIRCLE WITH DOTcHALF CIRCLE WITH DOTcTWO CIRCLES WITH DOTSdVERTICAL BARSeBARS WITH DOTSaSOH
aSOLID QUILT SQUARE ORNAMENTdORNAMENT IN BLACK SQUAREaSOLIDUSaSOLIDUS WITH OVERBARaSOM SIGN
aSOON WITH RIGHTWARDS ARROW ABOVEaSORA SOMPENG DIGIT EIGHTdFIVEdFOURdNINEdONEdSEVENdSIXdTHREEdTWOdZEROcLETTER AHdBAH
dCAHdDAHdEEHdEHdGAHdHAHdIHdJAHdKAHdLAHdMAEdMAHdNAHdNGAHdNYAHdOHdPAHdRAHdSAHdTAHdUHdVAHdYAHaSOS
aSOUND RECORDING COPYRIGHTaSOUTH EAST ARROWcARROW AND SOUTH WEST ARROWdCROSSING NORTH EAST ARROWdTO CORNERdWITH HOOK
cBLACK ARROWcDOUBLE ARROWcPOINTING BUDdLEAFdVINE LEAFcSANS-SERIF ARROWcTRIANGLE-HEADED ARROWeARROW TO BARcWHITE ARROW
bWEST ARROWcARROW AND NORTH WEST ARROWdWITH HOOKcBLACK ARROWcDOUBLE ARROWcPOINTING BUDdLEAFdVINE LEAFcSANS-SERIF ARROW
cTRIANGLE-HEADED ARROWeARROW TO BARcWHITE ARROWaSOYOMBO CLUSTER-INITIAL LETTER LAeRAeSAeSHAbFINAL CONSONANT SIGN -AeB
eDeGeKeLeMeNeNGeReSeSHbGEMINATION MARKbHEAD MARK WITH MOON AND SUNgSUN AND FLAMEiTRIPLE FLAMEbLETTER -AcAcBAcBHAcCA
cCHAcDAcDDAcDDHAcDHAcDZAcGAcGHAcHAcJAcJHAcKAcKHAcKSSAcLAcMAcNAcNGAcNNAcNYAcPAcPHAcRAcSAcSHAcSSAcTAcTHAcTSAcTSHAcTTA
cTTHAcVAcYAcZAcZHAbMARK DOUBLE SHADcPLUTAcSHADcTSHEGbSIGN ANUSVARAcJIHVAMULIYAcUPADHMANIYAcVISARGAbSUBJOINER
bTERMINAL MARK-1d2bVOWEL LENGTH MARKcSIGN AIdAUdEdIdOdOEdUdUEdVOCALIC LeRaSPaSPAaSPACEaSPAGHETTIaSPARKLEaSPARKLES
aSPARKLING HEARTaSPEAK-NO-EVIL MONKEYaSPEAKERaSPEAKER WITH CANCELLATION STROKEcONE SOUND WAVEcTHREE SOUND WAVES
aSPEAKING HEAD IN SILHOUETTEaSPEECH BALLOONaSPEEDBOATaSPESMILO SIGNaSPHERICAL ANGLEbANGLE OPENING LEFTdUPaSPIDER
aSPIDER WEBaSPIRAL CALENDAR PADbNOTE PADbSHELLaSPLASHING SWEAT SYMBOLaSPONGEaSPOOL OF THREADaSPOONaSPORTS MEDAL
aSPOUTING WHALEaSQUARE A OVER MbAARUbAMbANPEAbAPAATObARUHUAbAUbBAARERUbBARbBEETAbBIRUbBORUTObBQbBUSSYERUbC OVER KGbCAL
bCAPbCCbCDbCMbCM CUBEDcSQUAREDbCObCORPORATIONbCUPbDAbDAASUbDBbDESIbDJbDLbDMbDM CUBEDcSQUAREDbDORUbEEKAA
bERA NAME HEISEIdMEIZIdREIWAdSYOUWAdTAISYOUbERGbESUKUUDObEVbFMbFOOTbFOUR CORNERSbGALbGANMAbGARONbGBbGHZbGIGAbGINII
bGIRUDAAbGPAbGURAMUbGURAMUTONbGYbHAbHAITUbHEKUTAARUbHERUTUbHGbHIRAGANA HOKAbHONbHOONbHOORUbHPbHPAbHUARADDObHUIITO
bHURANbHZbIMAGE OFcOF OR EQUAL TOeNOT EQUAL TObINbININGUbINTIbIUbK OHMbKAbKAIRIbKARATTObKARORIIbKBbKCALbKEESUbKGbKHZ
bKIRObKIROGURAMUbKIROMEETORUbKIROWATTObKKbKLbKMbKM CAPITALcCUBEDcSQUAREDbKOOPObKORUNAbKPAbKTbKUROONEbKURUZEIRObKVbKW
bKYURIIbLEFT OPEN BOX OPERATORbLMbLNbLOGbLOZENGEbLXbM CUBEDcOHMcOVER SdS SQUAREDcSQUAREDbMAbMAHHAbMAIKURObMAIRU
bMANSYONbMARUKUbMBbMB SMALLbMEETORUbMEGAbMEGATONbMGbMHZbMIKURONbMILbMIRIbMIRIBAARUbMLbMMbMM CUBEDcSQUAREDbMOLbMPAbMS
bMU AcFcGcLcMcScVcWbMVbMV MEGAbMWbMW MEGAbNAbNANObNFbNMbNOTTObNSbNVbNWbONSUbOOMUbORIGINAL OFcOF OR EQUAL TO
eNOT EQUAL TObOVbPAbPA AMPSbPAASENTObPAATUbPCbPEEZIbPENIHIbPENSUbPESObPFbPHbPIASUTORUbPIKObPIKURUbPMbPOINTObPONDO
bPOSITION INDICATORbPPMbPRbPSbPVbPWbRADbRAD OVER SdS SQUAREDbREMUbRENTOGENbRIGHT OPEN BOX OPERATORbRIRAbRITTORUbROOT
bRUPIIbRUUBURUbSAIKURUbSANTIIMUbSENTIbSENTObSIRINGUbSRbSVbTARGETbTHZbTONbUONbV OVER MbWATTObWBbWITH BOTTOM HALF BLACK
cCONTOURED OUTLINEcDIAGONAL CROSSHATCH FILLcHORIZONTAL FILLcLEFT HALF BLACKcLOWER LEFT DIAGONAL HALF BLACK
dRIGHT DIAGONAL HALF BLACKcORTHOGONAL CROSSHATCH FILLcRIGHT HALF BLACKcTOP HALF BLACKcUPPER LEFT DIAGONAL HALF BLACK
eTO LOWER RIGHT FILLdRIGHT DIAGONAL HALF BLACKeTO LOWER LEFT FILLcVERTICAL FILLbYAADObYAARUbYUANaSQUARED ASTERISK
bCJK UNIFIED IDEOGRAPH-4E00e4E09e4E2De4E8Ce4EA4e518De521De524De5272e53CCe53F3e5408e5439e55B6e58F0e591Ae5929e5B57e5DE6
e5F8Ce624Be6253e6295e6307e6355e6599e65B0e6620e6708e6709e6E80e6F14e7121e751Fe7533e7981e7A7Ae7D42e89E3e8CA9e8D70e904A
e914DbCLbCOOLbDOT OPERATORbEIGHT KbFALLING DIAGONAL SLASHbFIVE POINT ONEbFOUR DOT PUNCTUATIONcKbFREEbHCbHDRbHI-RESbHV
bIDbKATAKANA DEcKOKOcSAbKEYbLATIN CAPITAL LETTER AeBeCeDeEeFeGeHeIeJeKeLeMeNeOePeQeReSeTeUeVeWeXeYeZcSMALL LETTER D
bLOGICAL ANDcORbLOSSLESSbMINUSbMVbNEWbNGbOKbONE HUNDRED TWENTY PbPLUSbPPVbRISING DIAGONAL SLASHbSALTIREbSD
bSECOND SCREENbSEVEN POINT ONEbSHVbSIXTY PbSMALL CIRCLEbSOSbSQUAREbSSbTHREE DbTIMESbTWENTY-TWO POINT TWObTWO KbUHD
bUP WITH EXCLAMATION MARKbVODbVSbWCaSQUAT BLACK RIGHTWARDS ARROWaSQUIDaSS2aSS3aSSAaSTaSTADIUMaSTAFF OF AESCULAPIUS
cHERMESaSTAMPED ENVELOPEaSTANDING PERSONaSTAR AND CRESCENTbEQUALSbOF DAVIDbOPERATORbWITH LEFT HALF BLACK
cRIGHT HALF BLACKaSTART OF GUARDED AREAcHEADINGcPROTECTED AREAcSELECTED AREAcSTRINGcTEXTaSTATIONaSTATUE OF LIBERTY
aSTEAM LOCOMOTIVEaSTEAMING BOWLaSTENOGRAPHIC FULL STOPaSTETHOSCOPEaSTICK FIGUREbFIGURE LEANING LEFTdRIGHT
cWITH ARMS RAISEDdDRESSaSTOCK CHARTaSTOPWATCHaSTRAIGHT RULERaSTRAIGHTNESSaSTRAWBERRYaSTRESS OUTLINED WHITE STAR
aSTRICTLY EQUIVALENT TOaSTRING TERMINATORaSTSaSTUDIO MICROPHONEaSTUFFED FLATBREADaSTUPAaSTXaSUBaSUBSCRIPT EIGHT
bEQUALS SIGNbFIVEbFOURbLEFT PARENTHESISbMINUSbNINEbONEbPLUS SIGNbRIGHT PARENTHESISbSEVENbSIXbTHREEbTWObZERO
aSUBSET ABOVE RIGHTWARDS ARROWcSUBSETcSUPERSETbOFbOF ABOVE ALMOST EQUAL TOdEQUALS SIGNdNOT EQUAL TOdTILDE OPERATOR
cOR EQUAL TOeTO WITH DOT ABOVEcWITH NOT EQUAL TObWITH DOTcMULTIPLICATION SIGN BELOWcPLUS SIGN BELOWaSUBSTITUTE
aSUCCEEDSaSUCCEEDS ABOVE ALMOST EQUAL TOcEQUALS SIGNcNOT ALMOST EQUAL TOdEQUAL TOcSINGLE-LINE EQUALS SIGNeNOT EQUAL TO
bBUT NOT EQUIVALENT TObOR EQUAL TOcEQUIVALENT TObUNDER RELATIONaSUMMATION BOTTOMbTOPbWITH INTEGRALaSUN
aSUN BEHIND CLOUDbWITH FACEaSUNDANESE AVAGRAHAbCONSONANT SIGN PAMINGKALdPANYAKRAdPANYIKUdPASANGAN MAeWAbDIGIT EIGHT
cFIVEcFOURcNINEcONEcSEVENcSIXcTHREEcTWOcZERObLETTER AcAEcBAcBHAcCAcDAcEcEUcFAcFINAL KdMcGAcHAcIcJAcKAcKHAcLAcLEUcMAcNA
cNGAcNYAcOcPAcQAcRAcREUcSAcSYAcTAcUcVAcWAcXAcYAcZAbPUNCTUATION BINDU BA SATANGAdCAKRAdDA SATANGAdKA SATANGA
dLEU SATANGAdPANGLONGdPURNAMAdSURYAbSIGN PAMAAEHcPANGLAYARcPANGWISADcPANYECEKcVIRAMAbVOWEL SIGN PAMEPETdPANAELAENG
dPANEULEUNGdPANGHULUdPANOLONGdPANYUKUaSUNFLOWERaSUNRISEaSUNRISE OVER MOUNTAINSaSUNSET OVER BUILDINGSaSUPERHERO
aSUPERSCRIPT EIGHTbEQUALS SIGNbFIVEbFOURbLATIN SMALL LETTER IeNbLEFT PARENTHESISbMINUSbNINEbONEbPLUS SIGN
bRIGHT PARENTHESISbSEVENbSIXbTHREEbTWObZEROaSUPERSET ABOVE LEFTWARDS ARROWcSUBSETcSUPERSET
bBESIDE AND JOINED BY DASH WITH SUBSETcSUBSETbOFbOF ABOVE ALMOST EQUAL TOdEQUALS SIGNdNOT EQUAL TOdTILDE OPERATOR
cOR EQUAL TOeTO WITH DOT ABOVEcWITH NOT EQUAL TObPRECEDING SOLIDUSbWITH DOTcMULTIPLICATION SIGN BELOWcPLUS SIGN BELOW
aSUPERVILLAINaSURFACE INTEGRALaSURFERaSUSHIaSUSPENSION RAILWAYaSWANaSWASH AMPERSAND ORNAMENTaSWIMMERaSWUNG DASH
aSYLOTI NAGRI LETTER AdBHOdBOdCHOdCOdDDHOdDDOdDHOdDOdEdGHOdGOdHOdIdJHOdJOdKHOdKOdLOdMOdNOdOdPHOdPOdROdRROdSOdTHOdTO
dTTHOdTTOdUcPOETRY MARK-1e2e3e4cSIGN ALTERNATE HASANTAdANUSVARAdDVISVARAdHASANTAcVOWEL SIGN AeEeIeOOeU
aSYMBOL FOR ACKNOWLEDGEcBACKSPACEcBELLcCANCELcCARRIAGE RETURNcDATA LINK ESCAPEcDELETEcDELETE FORM TWO
cDEVICE CONTROL FOUReONEeTHREEeTWOcEND OF MEDIUMeTEXTeTRANSMISSIONeTRANSMISSION BLOCKcENQUIRYcESCAPEcFILE SEPARATOR
cFORM FEEDcGROUP SEPARATORcHORIZONTAL TABULATIONcLINE FEEDcMARKS CHAPTERcNEGATIVE ACKNOWLEDGEcNEWLINEcNULL
cRECORD SEPARATORcSAMARITAN SOURCEcSHIFT INdOUTcSPACEcSTART OF HEADINGeTEXTcSUBSTITUTEcSUBSTITUTE FORM TWO
cSYNCHRONOUS IDLEcTYPE A ELECTRONICScUNIT SEPARATORcVERTICAL TABULATIONaSYMMETRYaSYNaSYNAGOGUEaSYNCHRONOUS IDLE
aSYRIAC ABBREVIATION MARKbBARREKHbCOLON SKEWED LEFTdRIGHTbCONTRACTIONbDOTTED ZLAMA ANGULARdHORIZONTALbEND OF PARAGRAPH
bESASA ABOVEcBELOWbFEMININE DOTbHARKLEAN ASTERISCUScMETOBELUScOBELUSbHBASA ABOVEcBELOWbHBASA-ESASA DOTTED
bHORIZONTAL COLONbLETTER ALAPHcBETHcDALATHcDOTLESS DALATH RISHcEcFINAL SEMKATHcGAMALcGAMAL GARSHUNIcHEcHETHcKAPH
cLAMADHcMALAYALAM BHAdJAdLLAdLLLAdNGAdNNAdNNNAdNYAdRAdSSAdTTAcMIMcNUNcPEcPERSIAN BHETHdDHALATHdGHAMALcQAPHcREVERSED PE
cRISHcSADHEcSEMKATHcSHINcSOGDIAN FEdKHAPHdZHAINcSUPERSCRIPT ALAPHcTAWcTETHcTETH GARSHUNIcWAWcYUDHcYUDH HEcZAINbMUSIC
bOBLIQUE LINE ABOVEdBELOWbPTHAHA ABOVEcBELOWcDOTTEDbQUSHSHAYAbRBASA ABOVEcBELOWbRUKKAKHAbRWAHAbSUBLINEAR COLON
cCOLON SKEWED LEFTeRIGHTcFULL STOPbSUPRALINEAR COLONcCOLON SKEWED LEFTcFULL STOPbTHREE DOTS ABOVEdBELOW
bTWO VERTICAL DOTS ABOVEeBELOWbZQAPHA ABOVEcBELOWcDOTTEDaSYRINGEaT-REXbSHIRTaTABaTABLE TENNIS PADDLE AND BALLaTACO
aTAG AMPERSANDbAPOSTROPHEbASTERISKbCIRCUMFLEX ACCENTbCOLONbCOMMAbCOMMERCIAL ATbDIGIT EIGHTcFIVEcFOURcNINEcONEcSEVEN
cSIXcTHREEcTWOcZERObDOLLAR SIGNbEQUALS SIGNbEXCLAMATION MARKbFULL STOPbGRAVE ACCENTbGREATER-THAN SIGNbHYPHEN-MINUS
bLATIN CAPITAL LETTER AeBeCeDeEeFeGeHeIeJeKeLeMeNeOePeQeReSeTeUeVeWeXeYeZcSMALL LETTER AeBeCeDeEeFeGeHeIeJeKeLeMeNeOeP
eQeReSeTeUeVeWeXeYeZbLEFT CURLY BRACKETcPARENTHESIScSQUARE BRACKETbLESS-THAN SIGNbLOW LINEbNUMBER SIGNbPERCENT SIGN
bPLUS SIGNbQUESTION MARKbQUOTATION MARKbREVERSE SOLIDUSbRIGHT CURLY BRACKETcPARENTHESIScSQUARE BRACKETbSEMICOLON
bSOLIDUSbSPACEbTILDEbVERTICAL LINEaTAGALOG LETTER AcARCHAIC RAcBAcDAcGAcHAcIcKAcLAcMAcNAcNGAcPAcRAcSAcTAcUcWAcYA
bSIGN PAMUDPODcVIRAMAbVOWEL SIGN IdUaTAGBANWA LETTER AcBAcDAcGAcIcKAcLAcMAcNAcNGAcPAcSAcTAcUcWAcYAbVOWEL SIGN IdU
aTAI LE LETTER AdAIdAUEdEdEEdEHdFAdHAdIdKAdKHAdLAdMAdNAdNGAdOdOOdPAdPHAdQAdSAdTAdTHAdTONE-2e3e4e5e6dTSAdTSHAdUdUEdVA
dXAdYAbTHAM COMBINING CRYPTOGRAMMIC DOTcCONSONANT SIGN BAeFINAL NGAeHIGH RATHA OR LOW PAeLA TANG LAIeLOW PAeMA
eMEDIAL LAfRAeSAcHORA DIGIT EIGHTeFIVEeFOUReNINEeONEeSEVENeSIXeTHREEeTWOeZEROcLETTER AdBAdDAdEEdGREAT SAdHIGH CAeCHA
eFAeHAeKAeKHAeKXAePAePHAeRATHAeSAeSHAeSSAeTAeTHAeYAdIdIIdLAdLAEdLLAdLOW CAeCHAeFAeHAeKAeKHAeKXAePAePHAeRATHAeSAeTAeTHA
eYAdLUEdMAdNAdNGAdNYAdOOdRAdRANAdRATAdRUEdUdUUdWAcSIGN CAANGdDOKMAIdHANGdHOYdKAANdKAANKUUdKEOWdKHUEN TONE-3f4f5
dKHUEN-LUE KARANdMAI KANGeKANG LAIeSAMeYAMOKdRA HAAMdREVERSED ROTATED RANAdSAKOTdSATKAANdSATKAANKUUdSAWANdTONE-1e2
dWIANGdWIANGWAAKcTHAM DIGIT EIGHTeFIVEeFOUReNINEeONEeSEVENeSIXeTHREEeTWOeZEROcVOWEL SIGN AeAAeAEeAIeEeIeIIeMAI SATeO
eOA ABOVEfBELOWeOOeOYeTALL AAeTHAM AIeUeUEeUUeUUEbVIET LETTER HIGH BOeCHOeCOeDOeFOeGOeHOeKHHOeKHOeKOeLOeMOeNGOeNOeNYO
eOePHOePOeROeSOeTHOeTOeVOeYOdLOW BOeCHOeCOeDOeFOeGOeHOeKHHOeKHOeKOeLOeMOeNGOeNOeNYOeOePHOePOeROeSOeTHOeTOeVOeYO
cMAI KANGdKHITcSYMBOL HO HOIdKOI KOIdKONdNUENGdSAMcTONE MAI EKeNUENGeSONGeTHOcVOWEL AAdAMdANdAUEdAYdEdIdIAdOdUdUAdUE
dUEAaTAKEOUT BOXaTAKRI ABBREVIATION SIGNbDIGIT EIGHTcFIVEcFOURcNINEcONEcSEVENcSIXcTHREEcTWOcZERObLETTER AcAAcAI
cARCHAIC KHAcAUcBAcBHAcCAcCHAcDAcDDAcDDHAcDHAcEcGAcGHAcHAcIcIIcJAcJHAcKAcKHAcLAcMAcNAcNGAcNNAcNYAcOcPAcPHAcRAcRRAcSA
cSHAcTAcTHAcTTAcTTHAcUcUUcVAcYAbSIGN ANUSVARAcNUKTAcVIRAMAcVISARGAbVOWEL SIGN AAdAIdAUdEdIdIIdOdUdUUaTALLY MARK FIVE
cONEaTAMALEaTAMIL AND ODD SIGNbAS ABOVE SIGNbAU LENGTH MARKbCREDIT SIGNbCURRENT SIGNbDAY SIGNbDEBIT SIGNbDIGIT EIGHT
cFIVEcFOURcNINEcONEcSEVENcSIXcTHREEcTWOcZERObDRY CULTIVATION SIGNbFRACTION DOWNSCALING FACTOR KIIZHcONE EIGHTH
dEIGHTIETHdFIFTHdFORTIETHdHALF-1e2dONE-HUNDRED-AND-SIXTIETHdQUARTERdSIXTEENTH-1e2dSIXTY-FOURTHdTENTHdTHIRTY-SECOND
dTHREE-HUNDRED-AND-TWENTIETHdTWENTIETHcTHREE EIGHTIETHSdQUARTERSdSIXTEENTHSdSIXTY-FOURTHSdTWENTIETHS
bIN POSSESSION SIGNbLAND SIGNbLETTER AcAAcAIcAUcCAcEcEEcHAcIcIIcJAcKAcLAcLLAcLLLAcMAcNAcNGAcNNAcNNNAcNYAcOcOOcPAcRA
cRRAcSAcSHAcSSAcTAcTTAcUcUUcVAcYAbMONTH SIGNbNUMBER ONE HUNDREDdTHOUSANDcSIGNcTENbOMbPUNCTUATION END OF TEXT
bRUPEE SIGNbSALT PAN SIGNbSIGN AAZHAAKKUcANUSVARAcCEVITUcKAACUcKURUNIcKUZHIcMUKKURUNIcMUTHALIYAcMUUVUZHAKKUcNELcPAARAM
cPANAMcPATHAKKUcPONcUZHAKKUcVAKAIYARAAcVARAAKANcVELIcVIRAMAcVISARGAbSPENT SIGNbSTARTING FROM SIGNbTOTAL SIGN
bTRADITIONAL CREDIT SIGNcNUMBER SIGNbVOWEL SIGN AAdAIdAUdEdEEdIdIIdOdOOdUdUUbWET CULTIVATION SIGNbYEAR SIGN
aTANABATA TREEaTANGERINEaTANGSA DIGIT EIGHTcFIVEcFOURcNINEcONEcSEVENcSIXcTHREEcTWOcZERObLETTER ACcAQcAWCcAWQcAWXcAWZ
cAXcAZcBAcCAcCHAcDAcDHAcECcEQcEXcEZcFAcFINAL NGcGAcGHAcHAcHTAcHTTAcICcIQcIXcIZcKAcKHAcLAcLONG UEXcMAcMCcMQcMXcMZcNA
cNGAcNHAcNYAcOCcOQcOXcOZcPAcPHAcRAcSAcSHAcSHORT AWXdUEZcTAcTHAcTSAcUCcUECcUEQcUEXcUEZcUICcUIQcUIUCcUIUQcUIUXcUIUZcUIX
cUIZcUQcUXcUZcVCcVQcVXcVZcWAcXAcYAcZAaTANGUT COMPONENT-001c002c003c004c005c006c007c008c009c010c011c012c013c014c015c016
c017c018c019c020c021c022c023c024c025c026c027c028c029c030c031c032c033c034c035c036c037c038c039c040c041c042c043c044c045
c046c047c048c049c050c051c052c053c054c055c056c057c058c059c060c061c062c063c064c065c066c067c068c069c070c071c072c073c074
c075c076c077c078c079c080c081c082c083c084c085c086c087c088c089c090c091c092c093c094c095c096c097c098c099c100c101c102c103
c104c105c106c107c108c109c110c111c112c113c114c115c116c117c118c119c120c121c122c123c124c125c126c127c128c129c130c131c132
c133c134c135c136c137c138c139c140c141c142c143c144c145c146c147c148c149c150c151c152c153c154c155c156c157c158c159c160c161
c162c163c164c165c166c167c168c169c170c171c172c173c174c175c176c177c178c179c180c181c182c183c184c185c186c187c188c189c190
c191c192c193c194c195c196c197c198c199c200c201c202c203c204c205c206c207c208c209c210c211c212c213c214c215c216c217c218c219
c220c221c222c223c224c225c226c227c228c229c230c231c232c233c234c235c236c237c238c239c240c241c242c243c244c245c246c247c248
c249c250c251c252c253c254c255c256c257c258c259c260c261c262c263c264c265c266c267c268c269c270c271c272c273c274c275c276c277
c278c279c280c281c282c283c284c285c286c287c288c289c290c291c292c293c294c295c296c297c298c299c300c301c302c303c304c305c306
c307c308c309c310c311c312c313c314c315c316c317c318c319c320c321c322c323c324c325c326c327c328c329c330c331c332c333c334c335
c336c337c338c339c340c341c342c343c344c345c346c347c348c349c350c351c352c353c354c355c356c357c358c359c360c361c362c363c364
c365c366c367c368c369c370c371c372c373c374c375c376c377c378c379c380c381c382c383c384c385c386c387c388c389c390c391c392c393
c394c395c396c397c398c399c400c401c402c403c404c405c406c407c408c409c410c411c412c413c414c415c416c417c418c419c420c421c422
c423c424c425c426c427c428c429c430c431c432c433c434c435c436c437c438c439c440c441c442c443c444c445c446c447c448c449c450c451
c452c453c454c455c456c457c458c459c460c461c462c463c464c465c466c467c468c469c470c471c472c473c474c475c476c477c478c479c480
c481c482c483c484c485c486c487c488c489c490c491c492c493c494c495c496c497c498c499c500c501c502c503c504c505c506c507c508c509
c510c511c512c513c514c515c516c517c518c519c520c521c522c523c524c525c526c527c528c529c530c531c532c533c534c535c536c537c538
c539c540c541c542c543c544c545c546c547c548c549c550c551c552c553c554c555c556c557c558c559c560c561c562c563c564c565c566c567
c568c569c570c571c572c573c574c575c576c577c578c579c580c581c582c583c584c585c586c587c588c589c590c591c592c593c594c595c596
c597c598c599c600c601c602c603c604c605c606c607c608c609c610c611c612c613c614c615c616c617c618c619c620c621c622c623c624c625
c626c627c628c629c630c631c632c633c634c635c636c637c638c639c640c641c642c643c644c645c646c647c648c649c650c651c652c653c654
c655c656c657c658c659c660c661c662c663c664c665c666c667c668c669c670c671c672c673c674c675c676c677c678c679c680c681c682c683
c684c685c686c687c688c689c690c691c692c693c694c695c696c697c698c699c700c701c702c703c704c705c706c707c708c709c710c711c712
c713c714c715c716c717c718c719c720c721c722c723c724c725c726c727c728c729c730c731c732c733c734c735c736c737c738c739c740c741
c742c743c744c745c746c747c748c749c750c751c752c753c754c755c756c757c758c759c760c761c762c763c764c765c766c767c768
bITERATION MARKaTAPE CARTRIDGEbDRIVEaTAURUSaTAXIaTEACUP WITHOUT HANDLEaTEAPOTaTEAR-OFF CALENDAR
aTEARDROP-BARBED RIGHTWARDS ARROWbSPOKED ASTERISKaTEDDY BEARaTELEPHONE LOCATION SIGNbON TOP OF MODEMbRECEIVER
bRECEIVER WITH PAGEbRECORDERbSIGNaTELESCOPEaTELEVISIONaTELUGU AI LENGTH MARKbDIGIT EIGHTcFIVEcFOURcNINEcONEcSEVENcSIX
cTHREEcTWOcZERObFRACTION DIGIT ONE FOR EVEN POWERS OF FOURfODD POWERS OF FOURdTHREE FOR EVEN POWERS OF FOUR
fODD POWERS OF FOURdTWO FOR EVEN POWERS OF FOURfODD POWERS OF FOURdZERO FOR ODD POWERS OF FOURbLENGTH MARKbLETTER AcAA
cAIcAUcBAcBHAcCAcCHAcDAcDDAcDDHAcDHAcDZAcEcEEcGAcGHAcHAcIcIIcJAcJHAcKAcKHAcLAcLLAcLLLAcMAcNAcNAKAARA POLLUcNGAcNNAcNYA
cOcOOcPAcPHAcRAcRRAcRRRAcSAcSHAcSSAcTAcTHAcTSAcTTAcTTHAcUcUUcVAcVOCALIC LdLLdRdRRcYAbSIGN ANUSVARAcAVAGRAHA
cCANDRABINDUcCOMBINING ANUSVARA ABOVEdCANDRABINDU ABOVEcNUKTAcSIDDHAMcTUUMUcVIRAMAcVISARGAbVOWEL SIGN AAdAIdAUdEdEEdI
dIIdOdOOdUdUUdVOCALIC LeLLeReRRaTENGE SIGNaTENNIS RACQUET AND BALLaTENTaTEST TUBEaTETRAGRAM FOR ACCUMULATIONcADVANCE
cAGGRAVATIONcASCENTcBARRIERcBOLD RESOLUTIONcBRANCHING OUTcCENTREcCHANGEcCLOSED MOUTHcCLOSENESScCLOSUREcCOMPLETION
cCOMPLIANCEcCONSTANCYcCONTACTcCONTENTIONcCONTRARIETYcDARKENINGcDECISIVENESScDEFECTIVENESS OR DISTORTIONcDEPARTURE
cDIFFICULTIEScDIMINISHMENTcDIMMINGcDIVERGENCEcDOUBTcDUTIEScEASEcEMBELLISHMENTcENCOUNTERScENDEAVOURcENLARGEMENT
cETERNITYcEXHAUSTIONcFAILUREcFLIGHTcFOLLOWINGcFOSTERINGcFULL CIRCLEcFULLNESScGATHERINGcGATHERING INcGOING TO MEET
cGREATNESScGUARDEDNESScHARDNESScHOLDING BACKcINCREASEcINNERcJOYcKEEPING SMALLcKINSHIPcLABOURINGcLAW OR MODELcLEGION
cMASSINGcMEASUREcMIREDcON THE VERGEcOPPOSITIONcPACKINGcPATTERNcPENETRATIONcPURITYcREACHcRELEASEcRESIDENCEcRESISTANCE
cRESPONSEcRITUALcSEVERANCEcSINKINGcSTOPPAGEcSTOVEcSTRENGTHcUNITYcVASTNESS OR WASTINGcWAITINGcWATCHcYOUTHFULNESS
aTHAANA AABAAFILIbABAFILIbEBEFILIbEEBEEFILIbEYBEYFILIbIBIFILIbLETTER AINUcALIFUcBAAcCHAVIYANIcDAADHUcDAVIYANIcDHAALU
cFAAFUcGAAFUcGHAINUcGNAVIYANIcHAAcHHAAcJAVIYANIcKAAFUcKHAAcLAAMUcLHAVIYANIcMEEMUcNAAcNOONUcPAVIYANIcQAAFUcRAAcSAADHU
cSEENUcSHAVIYANIcSHEENUcTAVIYANIcTHAAcTHAALUcTOcTTAAcVAAVUcWAAVUcYAAcZAAcZAVIYANIcZObOABOAFILIbOBOFILIbOOBOOFILIbSUKUN
bUBUFILIaTHAI CHARACTER ANGKHANKHUcBO BAIMAIcCHO CHANdCHANGdCHINGdCHOEcDO CHADAdDEKcFO FAdFANcFONGMANcHO HIPdNOKHUK
cKHO KHAIdKHONdKHUATdKHWAIdRAKHANGcKHOMUTcKO KAIcLAKKHANGYAOcLO CHULAdLINGcLUcMAI CHATTAWAdEKdHAN-AKATdTHOdTRI
cMAITAIKHUcMAIYAMOKcMO MAcNGO NGUcNIKHAHITcNO NENdNUcO ANGcPAIYANNOIcPHINTHUcPHO PHANdPHUNGdSAMPHAOcPO PLAcRO RUAcRU
cSARA AdAAdAEdAI MAIMALAIeMAIMUANdAMdEdIdIIdOdUdUEdUEEdUUcSO RUSIdSALAdSOdSUAcTHANTHAKHATcTHO NANGMONTHOdPHUTHAO
dTHAHANdTHANdTHONGdTHUNGcTO PATAKdTAOcWO WAENcYAMAKKANcYO YAKdYINGbCURRENCY SYMBOL BAHTbDIGIT EIGHTcFIVEcFOURcNINEcONE
cSEVENcSIXcTHREEcTWOcZEROaTHERE DOES NOT EXISTbEXISTSaTHEREFOREaTHERMODYNAMICaTHERMOMETERaTHIN GREEK CROSSbSALTIRE
bSPACEaTHINKING FACEaTHIRD PLACE MEDALaTHONG SANDALaTHOUGHT BALLOONaTHREE BUTTON MOUSEbCONSECUTIVE EQUALS SIGNS
bDIMENSIONAL ANGLEbDOT PUNCTUATIONbLEFTWARDS ARROWSbLINES CONVERGING LEFTdRIGHTbNETWORKED COMPUTERSbPOINTED BLACK STAR
bRAYS ABOVEcBELOWcLEFTcRIGHTbRIGHTWARDS ARROWSbSPEECH BUBBLESaTHREE-D BOTTOM-LIGHTED RIGHTWARDS ARROWHEAD
cLEFT-LIGHTED DOWNWARDS EQUILATERAL ARROWHEADcRIGHT-LIGHTED UPWARDS EQUILATERAL ARROWHEAD
cTOP-LIGHTED LEFTWARDS EQUILATERAL ARROWHEADeRIGHTWARDS ARROWHEADfEQUILATERAL ARROWHEADbEM DASHbPER-EM SPACE
aTHUMBS DOWN SIGNbUP SIGNaTHUNDER CLOUD AND RAINaTHUNDERSTORMaTIBETAN ASTROLOGICAL SIGN -KHYUD PAdSDONG TSHUGS
dSGRA GCAN -CHAR RTAGSbCANTILLATION SIGN CANG TE-UdHEAVY BEATdLIGHT BEATdSBUB -CHALbDIGIT EIGHTcFIVEcFOURcHALF EIGHT
dFIVEdFOURdNINEdONEdSEVENdSIXdTHREEdTWOdZEROcNINEcONEcSEVENcSIXcTHREEcTWOcZERObKU RU KHAdKHA BZHI MIG CANbLETTER -AcA
cBAcBHAcCAcCHAcDAcDDAcDDHAcDHAcDZAcDZHAcFIXED-FORM RAcGAcGHAcHAcJAcKAcKHAcKKAcKSSAcLAcMAcNAcNGAcNNAcNYAcPAcPHAcRAcRRA
cSAcSHAcSSAcTAcTHAcTSAcTSHAcTTAcTTHAcWAcYAcZAcZHAbLOGOTYPE SIGN CHAD RTAGSdLHAG RTAGSbMARK ANG KHANG GYASeGYON
cBKA- SHOG GI MGO RGYANfYIG MGOcBSDUS RTAGScBSKA- SHOG GI MGO RGYANcBSKUR YIG MGOcCARET -DZUD RTAGS BZHI MIG CAN
gME LONG CANdYIG MGO PHUR SHAD MAcCHE MGOcCLOSING BRDA RNYING YIG MGO SGAB MAdYIG MGO SGAB MAcDELIMITER TSHEG BSTAR
cGTER TSHEGdYIG MGO -UM GTER TSHEG MAhRNAM BCAD MAfTRUNCATED AcGUG RTAGS GYASeGYONcHALANTA
cINITIAL BRDA RNYING YIG MGO MDUN MAdYIG MGO MDUN MAcINTERSYLLABIC TSHEGcLEADING MCHAN RTAGScMNYAM YIG GI MGO RGYAN
cNGAS BZUNG NYI ZLAeSGOR RTAGScNYIS SHADdTSHEGdTSHEG SHADcPALUTAcRGYA GRAM SHADcRIN CHEN SPUNGS SHADcSBRUL SHADcSHAD
cTRAILING MCHAN RTAGScTSA -PHRUcTSHEG SHADcYIG MGO TSHEG SHAD MAbSIGN GRU CAN RGYINGSdMED RGYINGScINVERTED MCHU CAN
cLCE TSA CANcLCI RTAGScMAR TSHEScMCHU CANcNYI ZLA NAA DAcRDEL DKAR GCIGeGNYISeGSUMeRDEL NAGdNAG GCIGeGNYISeGSUM
eRDEL DKARcRJES SU NGA ROcRNAM BCADcSNA LDANcYANG RTAGScYAR TSHESbSUBJOINED LETTER -AdAdBAdBHAdCAdCHAdDAdDDAdDDHAdDHA
dDZAdDZHAdFIXED-FORM RAfWAfYAdGAdGHAdHAdJAdKAdKHAdKSSAdLAdMAdNAdNGAdNNAdNYAdPAdPHAdRAdSAdSHAdSSAdTAdTHAdTSAdTSHAdTTA
dTTHAdWAdYAdZAdZHAcSIGN INVERTED MCHU CANdLCE TSA CANdMCHU CANbSYLLABLE OMbSYMBOL DRIL BUcNOR BUdBU BZHI -KHYIL
eGSUM -KHYILeNYIS -KHYILcPADMA GDANcPHUR PAcRDO RJEdRJE RGYA GRAMbVOWEL SIGN AAdEdEEdIdIIdOdOOdREVERSED IeIIdUdUU
dVOCALIC LeLLeReRRaTICKETaTIE OVER INFINITYaTIFINAGH CONSONANT JOINERbLETTER AHAGGAR YAZHcAYER YAGHcBERBER ACADEMY YAH
eYAJcTAWELLEMET YAZcTUAREG YAGHdYAGNdYAHdYAKdYAKHdYANGdYAQdYAZHcYAcYAAcYABcYABHcYACHcYADcYADDcYADDHcYADHcYAFcYAGcYAGH
cYAGHHcYAHcYAHHcYAJcYAKcYAKHcYAKHHcYALcYAMcYANcYAPcYAQcYARcYARRcYAScYASHcYASScYATcYATHcYATTcYAVcYAWcYAYcYAZcYAZHcYAZZ
cYEcYEYcYIcYOcYUbMODIFIER LETTER LABIALIZATION MARKbSEPARATOR MARKaTIGERaTIGER FACEaTIGHT TRIFOLIATE SNOWFLAKEaTILDE
aTILDE OPERATORbOPERATOR ABOVE LEFTWARDS ARROWdRIGHTWARDS ARROWcWITH DOT ABOVEdRISING DOTSbWITH DOT ABOVEdBELOW
cRING ABOVEaTIMER CLOCKaTIMES WITH LEFT HALF BLACKcRIGHT HALF BLACKaTINYaTINY TWO DOTS OVER ONE DOT PUNCTUATION
aTIRED FACEaTIRHUTA ABBREVIATION SIGNbANJIbDIGIT EIGHTcFIVEcFOURcNINEcONEcSEVENcSIXcTHREEcTWOcZERObGVANGbLETTER AcAA
cAIcAUcBAcBHAcCAcCHAcDAcDDAcDDHAcDHAcEcGAcGHAcHAcIcIIcJAcJHAcKAcKHAcLAcMAcNAcNGAcNNAcNYAcOcPAcPHAcRAcSAcSHAcSSAcTAcTHA
cTTAcTTHAcUcUUcVAcVOCALIC LdLLdRdRRcYAbOMbSIGN ANUSVARAcAVAGRAHAcCANDRABINDUcNUKTAcVIRAMAcVISARGAbVOWEL SIGN AAdAIdAU
dEdIdIIdOdSHORT EeOdUdUUdVOCALIC LeLLeReRRaTIRONIAN SIGN CAPITAL ETcETaTOILETaTOKYO TOWERaTOMATOaTONGUEaTOOLBOXaTOOTH
aTOOTHBRUSHaTOP ARC ANTICLOCKWISE ARROWdARROW WITH PLUScCLOCKWISE ARROW WITH MINUSbCURLY BRACKETbHALF BLACK CIRCLE
cINTEGRALcLEFT PARENTHESIScRIGHT PARENTHESIScSECTION SIGNbHATbLEFT CORNERcCROPcHALF BRACKETbPARENTHESISbRIGHT CORNER
cCROPcHALF BRACKETbSQUARE BRACKETbTORTOISE SHELL BRACKETbWITH UPWARDS ARROW ABOVE
aTORTOISE SHELL BRACKETED CJK UNIFIED IDEOGRAPH-4E09g4E8Cg52DDg5B89g6253g6557g672Cg70B9g76D7dLATIN CAPITAL LETTER S
aTOTAL RUNOUTaTOTO LETTER AcAEcBAcBREATHY AEdEdEOdIdIUcCHAcDAcEcEOcGAcHAcIcIUcJAcKAcLAcMAcNAcNGAcOcPAcRAcSAcTAcUcWAcYA
bSIGN RISING TONEaTRACKBALLaTRACTORaTRADE MARK SIGNaTRAINaTRAMaTRAM CARaTRANSPLUTOaTRANSVERSAL INTERSECTION
aTRIANGLE WITH DOT ABOVEcROUNDED CORNERScSERIFS AT BOTTOMcUNDERBARaTRIANGLE-HEADED RIGHTWARDS ARROWaTRIANGULAR BULLET
bFLAG ON POSTbRULERaTRICOLONaTRIDENT EMBLEMaTRIGRAM FOR EARTHcFIREcHEAVENcLAKEcMOUNTAINcTHUNDERcWATERcWIND
aTRIPLE COLON OPERATORbDAGGERbHORIZONTAL BAR WITH DOUBLE VERTICAL STROKEeTRIPLE VERTICAL STROKEbINTEGRAL
bNESTED GREATER-THANcLESS-THANbPLUSbPRIMEbSOLIDUS BINARY RELATIONbTILDEbVERTICAL BAR BINARY RELATIONdDELIMITER
dRIGHT TURNSTILEdWITH HORIZONTAL STROKEaTROLLaTROLLEYBUSaTROPHYaTROPICAL DRINKbFISHaTRUEaTRUE LIGHT MOON ARTAaTRUMPET
aTUGRIK SIGNaTULIPaTUMBLER GLASSaTURKEYaTURKISH LIRA SIGNaTURNED AMPERSANDbANGLEbBLACK PENTAGONcSHOGI PIECEbCAPITAL F
bCOMMAbDAGGERbDIGIT THREEcTWObGREEK SMALL LETTER IOTAbNORTH EAST POINTING LEAFcWEST POINTING LEAFbNOT SIGN
bOK HAND SIGNbSANS-SERIF CAPITAL GeLeYbSEMICOLONbSMALL FbSOUTH EAST POINTING LEAFcWEST POINTING LEAFbWHITE SHOGI PIECE
aTURTLEaTWELVE POINTED BLACK STARaTWISTED RIGHTWARDS ARROWSaTWO ASTERISKS ALIGNED VERTICALLYbBUTTON MOUSE
bCONSECUTIVE EQUALS SIGNSbDOT LEADERcPUNCTUATIONbDOTS OVER ONE DOT PUNCTUATIONbHEARTSbINTERSECTING LOGICAL ANDdOR
bJOINED SQUARESbLOGICAL AND OPERATORcOR OPERATORbMEN HOLDING HANDSbSPEECH BUBBLESbWOMEN HOLDING HANDSaTWO-EM DASH
aUGARITIC LETTER AINcALPAcBETAcDELTAcDHALcGAMLAcGHAINcHOcHOTAcIcKAFcKHAcLAMDAcMEMcNUNcPUcQOPAcRASHAcSADEcSAMKAcSHIN
cSSUcTETcTHANNAcTOcUcWOcYODcZETAcZUbWORD DIVIDERaUMBRELLAaUMBRELLA ON GROUNDbWITH RAIN DROPSaUNAMUSED FACE
aUNCERTAINTY SIGNaUNDERTIEaUNDO SYMBOLaUNICORN FACEaUNIONaUNION ABOVE BAR ABOVE INTERSECTIONcINTERSECTION
bBESIDE AND JOINED WITH UNIONbWITH LOGICAL ORcMINUS SIGNcOVERBARaUNIT SEPARATORaUNITED SYMBOL
aUNIVERSAL RECYCLING SYMBOLaUNMARRIED PARTNERSHIP SYMBOLaUP ARROW THROUGH CIRCLEbARROWHEAD
bARROWHEAD BETWEEN TWO HORIZONTAL BARScIN A RECTANGLE BOXbBARB LEFT DOWN BARB LEFT HARPOONfRIGHT HARPOON
cRIGHT DOWN BARB LEFT HARPOONfRIGHT HARPOONbDOWN ARROWcARROW WITH BASEcBLACK ARROWcDOUBLE ARROWcSANS-SERIF ARROW
cTRIANGLE-HEADED ARROWcWHITE ARROWbFISH TAILbRIGHT DIAGONAL ELLIPSISbTACKbTACK WITH CIRCLE ABOVEaUP-POINTING AIRPLANE
cMILITARY AIRPLANEcRED TRIANGLEcSMALL AIRPLANEdRED TRIANGLEcTRIANGLE WITH LEFT HALF BLACKeRIGHT HALF BLACK
aUPPER AND LEFT AND LOWER TRIANGULAR THREE QUARTERS BLOCKcLOWER ONE EIGHTH BLOCKdTRIANGULAR HALF BLOCK
cRIGHT AND LOWER TRIANGULAR THREE QUARTERS BLOCKbBLADE SCISSORSbFIVE EIGHTHS BLOCKbHALF BLOCK
cBLOCK AND LOWER HALF INVERSE MEDIUM SHADEcCIRCLEcINVERSE MEDIUM SHADE AND LOWER HALF BLOCKdWHITE CIRCLEcMEDIUM SHADE
bLEFT BLOCK DIAGONAL LOWER CENTRE TO LOWER MIDDLE RIGHThUPPER MIDDLE RIGHTiRIGHTfLEFT TO LOWER MIDDLE RIGHT
hUPPER CENTREiMIDDLE RIGHTfMIDDLE LEFT TO UPPER CENTREjMIDDLE RIGHTjRIGHTeUPPER MIDDLE LEFT TO UPPER CENTREjRIGHT
cCORNER WITH DOTcOR LOWER RIGHT CURLY BRACKET SECTIONcQUADRANT CIRCULAR ARCcTO LOWER RIGHT FILLcTRIANGLE
cTRIANGULAR MEDIUM SHADEbONE EIGHTH BLOCKcQUARTER BLOCKbRIGHT BLOCK DIAGONAL LOWER MIDDLE LEFT TO LOWER CENTREjRIGHT
eUPPER CENTRE TO LOWER MIDDLE RIGHTiRIGHThUPPER MIDDLE RIGHTfLEFT TO LOWER CENTREiMIDDLE RIGHThUPPER MIDDLE RIGHT
fMIDDLE LEFT TO LOWER CENTREjMIDDLE RIGHTjRIGHTcDROP-SHADOWED WHITE SQUAREcOR LOWER LEFT CURLY BRACKET SECTIONcPENCIL
cQUADRANT CIRCULAR ARCcSHADOWED WHITE CIRCLEeSQUAREcTO LOWER LEFT FILLcTRIANGLEcTRIANGULAR MEDIUM SHADE
bSEVEN EIGHTHS BLOCKbTHREE EIGHTHS BLOCKcQUARTERS BLOCKbTRIANGULAR ONE QUARTER BLOCKaUPSIDE-DOWN FACEaUPWARDS ANCORA
bARROWbARROW AND RIGHT ONE EIGHTH BLOCKcFROM BARcLEFTWARDS OF DOWNWARDS ARROWcTO BARcWITH DOUBLE STROKE
dEQUILATERAL ARROWHEADdHORIZONTAL STROKEdLARGE TRIANGLE ARROWHEADdMEDIUM TRIANGLE ARROWHEADdNOTCHED TAIL
dSMALL EQUILATERAL ARROWHEADeTRIANGLE ARROWHEADdTIP LEFTWARDSeRIGHTWARDSbBLACK ARROWcCIRCLED WHITE ARROW
bCOMPRESSED ARROWbDASHED ARROWbDOUBLE ARROWbFINGER-POST ARROW
bHARPOON WITH BARB LEFT BESIDE DOWNWARDS HARPOON WITH BARB RIGHTgUPWARDS HARPOON WITH BARB RIGHTfFROM BARfTO BAR
eLEFTWARDSeRIGHT FROM BARfTO BAReRIGHTWARDSbHEAVY ARROWcCOMPRESSED ARROWbPAIRED ARROWSbQUADRUPLE ARROWbROCKET
bSANS-SERIF ARROWbSQUARED ARROWbTRIANGLE ARROWHEADbTRIANGLE-HEADED ARROW
dARROW LEFTWARDS OF DOWNWARDS TRIANGLE-HEADED ARROWeTO BAReWITH BOLD SHAFTfDOUBLE HORIZONTAL STROKEfHEAVY SHAFT
fLONG TIP LEFTWARDShRIGHTWARDSfMEDIUM SHAFTfNARROW SHAFTfVERY HEAVY SHAFTdDASHED ARROWdPAIRED ARROWSbTRIPLE ARROW
bTWO HEADED ARROWbTWO-HEADED ARROW FROM SMALL CIRCLEeWITH TRIANGLE ARROWHEADSbWHITE ARROWcARROW FROM BAR
eBAR WITH HORIZONTAL BARdON PEDESTALePEDESTAL WITH HORIZONTAL BARgVERTICAL BARdWITHIN TRIANGLE ARROWHEADcDOUBLE ARROW
dARROW ON PEDESTALaURANUSaUSaVAI COMMAbDIGIT EIGHTcFIVEcFOURcNINEcONEcSEVENcSIXcTHREEcTWOcZERObFULL STOPbQUESTION MARK
bSYLLABLE AcANcBAcBEcBEEcBHAcBHEcBHEEcBHIcBHOcBHOOcBHUcBIcBOcBOOcBUcCAcCEcCEEcCIcCOcCOOcCUcDAcDEcDEEcDHAcDHEcDHEEcDHHA
cDHHEcDHHEEcDHHIcDHHOcDHHOOcDHHUcDHIcDHOcDHOOcDHUcDIcDOcDOOcDUcEcEEcEENcENcFAcFEcFEEcFIcFOcFOOcFUcGAcGBAcGBEcGBEEcGBEN
cGBIcGBOcGBONcGBOOcGBUcGEcGEEcGENcGIcGOcGOOcGUcHAcHANcHEcHEEcHENcHIcHINcHOcHONcHOOcHUcHUNcIcINcJAcJEcJEEcJIcJOcJOOcJU
cKAcKANcKEcKEEcKIcKOcKOOcKPAcKPANcKPEcKPEEcKPENcKPIcKPOcKPOOcKPUcKUcLAcLEcLEEcLENGTHENERcLIcLOcLOOcLUcMAcMBAcMBEcMBEE
cMBIcMBOcMBOOcMBUcMEcMEEcMGBAcMGBEcMGBEEcMGBIcMGBOcMGBOOcMGBUcMIcMOcMOOcMUcNAcNDAcNDEcNDEEcNDIcNDOcNDOLE DOdFAdKAdMA
dSOOcNDOOcNDUcNEcNEEcNGcNGANcNGENcNGGAcNGGEcNGGEEcNGGENcNGGIcNGGOcNGGOOcNGGUcNGONcNIcNJAcNJEcNJEEcNJIcNJOcNJOOcNJUcNO
cNOOcNUcNYAcNYEcNYEEcNYIcNYOcNYOOcNYUcOcONcOOcOONcPAcPEcPEEcPIcPOcPOOcPUcRAcREcREEcRIcROcROOcRUcSAcSEcSEEcSHAcSHEcSHEE
cSHIcSHOcSHOOcSHUcSIcSOcSOOcSUcTAcTEcTEEcTHAcTHEcTHEEcTHIcTHOcTHOOcTHUcTIcTOcTOOcTUcUcUNcVAcVEcVEEcVIcVOcVOOcVUcWAcWAN
cWEcWEEcWEENcWENcWIcWINcWOcWONcWOOcWOONcWUcWUNcYAcYEcYEEcYIcYOcYOOcYUcZAcZEcZEEcZHAcZHEcZHEEcZHIcZHOcZHOOcZHUcZIcZO
cZOOcZUbSYMBOL BANGcDANGcDO-OcDOONGcFAAcFEENGcJONGcKEENGcKUNGcNIIcTAAcTINGcTONGaVAMPIREaVARIATION SELECTOR-1c10c100
c101c102c103c104c105c106c107c108c109c11c110c111c112c113c114c115c116c117c118c119c12c120c121c122c123c124c125c126c127c128
c129c13c130c131c132c133c134c135c136c137c138c139c14c140c141c142c143c144c145c146c147c148c149c15c150c151c152c153c154c155
c156c157c158c159c16c160c161c162c163c164c165c166c167c168c169c17c170c171c172c173c174c175c176c177c178c179c18c180c181c182
c183c184c185c186c187c188c189c19c190c191c192c193c194c195c196c197c198c199c2c20c200c201c202c203c204c205c206c207c208c209
c21c210c211c212c213c214c215c216c217c218c219c22c220c221c222c223c224c225c226c227c228c229c23c230c231c232c233c234c235c236
c237c238c239c24c240c241c242c243c244c245c246c247c248c249c25c250c251c252c253c254c255c256c26c27c28c29c3c30c31c32c33c34c35
c36c37c38c39c4c40c41c42c43c44c45c46c47c48c49c5c50c51c52c53c54c55c56c57c58c59c6c60c61c62c63c64c65c66c67c68c69c7c70c71
c72c73c74c75c76c77c78c79c8c80c81c82c83c84c85c86c87c88c89c9c90c91c92c93c94c95c96c97c98c99aVECTOR OR CROSS PRODUCT
aVEDIC SIGN ANUSVARA ANTARGOMUKHAdBAHIRGOMUKHAdUBHAYATO MUKHAdVAMAGOMUKHAdVAMAGOMUKHA WITH TAILcARDHAVISARGAcATIKRAMA
cDOUBLE ANUSVARA ANTARGOMUKHAcHEXIFORM LONG ANUSVARAcJIHVAMULIYAcLONG ANUSVARAcNIHSHVASAcREVERSED VISARGA ANUDATTA
eUDATTAcROTATED ARDHAVISARGAcRTHANG LONG ANUSVARAcTIRYAKcUPADHMANIYAcVISARGA ANUDATTAdANUDATTA WITH TAILdSVARITA
dUDATTAdUDATTA WITH TAILcYAJURVEDIC MIDLINE SVARITAbTONE ATHARVAVEDIC INDEPENDENT SVARITAcCANDRA ABOVEdBELOWcDOT BELOW
cDOUBLE RING ABOVEdSVARITAcKARSHANAcKATHAKA ANUDATTAcPRENKHAcRIGVEDIC KASHMIRI INDEPENDENT SVARITAcRING ABOVEcSHARA
cTHREE DOTS BELOWcTRIPLE SVARITAcTWO DOTS BELOWcYAJURVEDIC AGGRAVATED INDEPENDENT SVARITAdINDEPENDENT SVARITA
dKATHAKA INDEPENDENT SVARITAfSVARITA SCHROEDERaVERSICLEaVERTICAL BAR BESIDE RIGHT TRIANGLEcDOUBLE LEFT TURNSTILE
cTRIPLE RIGHT TURNSTILEcWITH HORIZONTAL STROKEbELLIPSISbFOUR DOTSbIDEOGRAPHIC ITERATION MARKbKANA REPEAT MARK
dMARK LOWER HALFeUPPER HALFdWITH VOICED SOUND MARKgMARK UPPER HALFbLINEbLINE EXTENSIONcWITH CIRCLE ABOVEeBELOW
dMIDDLE DOTbMALE WITH STROKE SIGNbONE EIGHTH BLOCK-2e3e4e5e6e7bSIX DOTSbTAB KEYbTABULATIONbTABULATION SETbTILDE
bTRAFFIC LIGHTbZIGZAG LINEaVERY BOLD GREEK CROSSbHEAVY EIGHT POINTED BLACK STARdSPOKED ASTERISKcFIVE SPOKED ASTERISK
cGREEK CROSScREVERSE SOLIDUScSALTIREcSIX SPOKED ASTERISKcSOLIDUScWHITE CIRCLEdSQUAREbMUCH GREATER-THANcLESS-THANaVESTA
aVIBRATION MODEaVICTORY HANDaVIDEO CAMERAbGAMEaVIDEOCASSETTEaVIETNAMESE ALTERNATE READING MARK CAeNHAYaVIEWDATA SQUARE
aVIOLINaVIRGOaVITHKUQI CAPITAL LETTER AdBBEdBEdCEdCHEdDEdDHEdEdEIdFEdGAdHAdHHAdIdIJEdJEdKAdLAdLLAdMEdNEdNJEdOdPEdQAdRE
dSEdSHEdTEdTHEdUdVEdXEdYdZEbSMALL LETTER AdBBEdBEdCEdCHEdDEdDHEdEdEIdFEdGAdHAdHHAdIdIJEdJEdKAdLAdLLAdMEdNEdNJEdOdPEdQA
dREdSEdSHEdTEdTHEdUdVEdXEdYdZEaVOIDED GREEK CROSSaVOLCANOaVOLLEYBALLaVOLUME INTEGRALaVS1aVS10aVS100aVS101aVS102aVS103
aVS104aVS105aVS106aVS107aVS108aVS109aVS11aVS110aVS111aVS112aVS113aVS114aVS115aVS116aVS117aVS118aVS119aVS12aVS120aVS121
aVS122aVS123aVS124aVS125aVS126aVS127aVS128aVS129aVS13aVS130aVS131aVS132aVS133aVS134aVS135aVS136aVS137aVS138aVS139aVS14
aVS140aVS141aVS142aVS143aVS144aVS145aVS146aVS147aVS148aVS149aVS15aVS150aVS151aVS152aVS153aVS154aVS155aVS156aVS157
aVS158aVS159aVS16aVS160aVS161aVS162aVS163aVS164aVS165aVS166aVS167aVS168aVS169aVS17aVS170aVS171aVS172aVS173aVS174aVS175
aVS176aVS177aVS178aVS179aVS18aVS180aVS181aVS182aVS183aVS184aVS185aVS186aVS187aVS188aVS189aVS19aVS190aVS191aVS192aVS193
aVS194aVS195aVS196aVS197aVS198aVS199aVS2aVS20aVS200aVS201aVS202aVS203aVS204aVS205aVS206aVS207aVS208aVS209aVS21aVS210
aVS211aVS212aVS213aVS214aVS215aVS216aVS217aVS218aVS219aVS22aVS220aVS221aVS222aVS223aVS224aVS225aVS226aVS227aVS228
aVS229aVS23aVS230aVS231aVS232aVS233aVS234aVS235aVS236aVS237aVS238aVS239aVS24aVS240aVS241aVS242aVS243aVS244aVS245aVS246
aVS247aVS248aVS249aVS25aVS250aVS251aVS252aVS253aVS254aVS255aVS256aVS26aVS27aVS28aVS29aVS3aVS30aVS31aVS32aVS33aVS34
aVS35aVS36aVS37aVS38aVS39aVS4aVS40aVS41aVS42aVS43aVS44aVS45aVS46aVS47aVS48aVS49aVS5aVS50aVS51aVS52aVS53aVS54aVS55aVS56
aVS57aVS58aVS59aVS6aVS60aVS61aVS62aVS63aVS64aVS65aVS66aVS67aVS68aVS69aVS7aVS70aVS71aVS72aVS73aVS74aVS75aVS76aVS77aVS78
aVS79aVS8aVS80aVS81aVS82aVS83aVS84aVS85aVS86aVS87aVS88aVS89aVS9aVS90aVS91aVS92aVS93aVS94aVS95aVS96aVS97aVS98aVS99aVT
aVTSaVULCANUSaVULGAR FRACTION FIVE EIGHTHSdSIXTHScFOUR FIFTHScONE EIGHTHdFIFTHdHALFdNINTHdQUARTERdSEVENTHdSIXTHdTENTH
dTHIRDcSEVEN EIGHTHScTHREE EIGHTHSdFIFTHSdQUARTERScTWO FIFTHSdTHIRDScZERO THIRDSaWAFFLEaWANCHO DIGIT EIGHTcFIVEcFOUR
cNINEcONEcSEVENcSIXcTHREEcTWOcZERObLETTER AcAAcAANcAANGcANGcAUcBAcCAcDAcEcENcFAcGAcHAcIcINGcJAcKAcKHAcLAcLLHAcMAcNA
cNGAcNYAcOcONcONGcPAcPHAcRAcSAcSHAcTAcTHAcTRAcTSAcUcUENcVAcWAcYAcYIHcZAbNGUN SIGNbTONE KOIcKOINIcTUPcTUPNI
aWANING CRESCENT MOON SYMBOLbGIBBOUS MOON SYMBOLaWARANG CITI CAPITAL LETTER AeAMeANGeATeBUeDAeEeENNeENYeGAeHAReHIYO
eHOLOeHORReIIeKOeNGAAeNUNGeOeODDePUeSIIeSSUUeTTEeUCeUUeVIYOeWIeYAeYOeYUeYUJcDIGIT EIGHTdFIVEdFOURdNINEdONEdSEVENdSIX
dTHREEdTWOdZEROcNUMBER EIGHTYdFIFTYdFORTYdNINETYdSEVENTYdSIXTYdTENdTHIRTYdTWENTYcOMcSMALL LETTER AeAMeANGeATeBUeDAeE
eENNeENYeGAeHAReHIYOeHOLOeHORReIIeKOeNGAAeNUNGeOeODDePUeSIIeSSUUeTTEeUCeUUeVIYOeWIeYAeYOeYUeYUJaWARNING SIGN
aWASTEBASKETaWATCHaWATER BUFFALObCLOSETbPOLObWAVEaWATERMELONaWAVE ARROW POINTING DIRECTLY LEFTeRIGHTbDASH
aWAVING BLACK FLAGbHAND SIGNbWHITE FLAGaWAVY DASHbLINEbLOW LINEbOVERLINEaWAXING CRESCENT MOON SYMBOL
bGIBBOUS MOON SYMBOLaWEARY CAT FACEbFACEaWEDDINGaWEDGE-TAILED RIGHTWARDS ARROWaWEIERSTRASS ELLIPTIC FUNCTION
aWEIGHT LIFTERaWEST SYRIAC CROSSaWHALEaWHEELaWHEEL OF DHARMAaWHEELCHAIR SYMBOLaWHITE ARROW SHAFT WIDTH ONEeTWO THIRDS
bBULLETbCHESS BISHOPcBISHOP ROTATED NINETY DEGREESeTWO HUNDRED SEVENTY DEGREEScEQUIHOPPER
cEQUIHOPPER ROTATED NINETY DEGREEScKINGcKING ROTATED NINETY DEGREESeTWO HUNDRED SEVENTY DEGREEScKNIGHT
cKNIGHT ROTATED FORTY-FIVE DEGREESeNINETY DEGREESeONE HUNDRED THIRTY-FIVE DEGREESeTHREE HUNDRED FIFTEEN DEGREES
eTWO HUNDRED SEVENTY DEGREESgTWENTY-FIVE DEGREEScKNIGHT-BISHOPdQUEENdROOKcPAWNcPAWN ROTATED NINETY DEGREES
eTWO HUNDRED SEVENTY DEGREEScQUEENcQUEEN ROTATED NINETY DEGREESeTWO HUNDRED SEVENTY DEGREEScROOK
cROOK ROTATED NINETY DEGREESeTWO HUNDRED SEVENTY DEGREEScTURNED BISHOPdKINGdKNIGHTdPAWNdQUEENdROOKbCIRCLE
bCIRCLE CONTAINING BLACK SMALL CIRCLEcWITH DOT RIGHTdDOWN ARROWdLOWER LEFT QUADRANTeRIGHT QUADRANTdTWO DOTS
dUPPER LEFT QUADRANTeRIGHT QUADRANTbCLUB SUITbCONCAVE-SIDED DIAMONDdDIAMOND WITH LEFTWARDS TICKfRIGHTWARDS TICK
bDIAMONDbDIAMOND CONTAINING BLACK MEDIUM DIAMONDeSMALL DIAMONDeVERY SMALL DIAMONDcIN SQUAREcSUITcWITH CENTRED DOT
bDOWN POINTING BACKHAND INDEXdINDEXdLEFT HAND INDEXbDOWN-POINTING SMALL TRIANGLEdTRIANGLEbDRAUGHTS KINGcMAN
bEXCLAMATION MARK ORNAMENTbFLAGbFLAG WITH HORIZONTAL MIDDLE BLACK STRIPEbFLORETTEbFLOWERbFOUR POINTED CUSPdSTAR
bFROWNING FACEbHARD SHELL FLOPPY DISKbHEARTbHEART SUITbHEAVY CHECK MARKcSALTIRE WITH ROUNDED CORNERSbHEXAGON
bHORIZONTAL ELLIPSEbHOURGLASSbLARGE SQUAREbLATIN CROSSbLEFT LANE MERGEcPOINTING BACKHAND INDEXdINDEX
bLEFT-POINTING POINTERdSMALL TRIANGLEdTRIANGLEbLOZENGE CONTAINING BLACK SMALL LOZENGEbMEDIUM DIAMONDcLOZENGE
cSMALL SQUAREcSQUAREcSTARbMOON SELENAbNIBbPARALLELOGRAMbPENNANTbPENTAGONbQUESTION MARK ORNAMENTbRECTANGLE
bRIGHT POINTING BACKHAND INDEXdINDEXbRIGHT-POINTING PENTAGONdPOINTERdSMALL TRIANGLEdTRIANGLEbSCISSORSbSESAME DOT
bSHOGI PIECEbSMALL LOZENGEcSQUAREcSTARbSMILING FACEbSPADE SUITbSQUAREbSQUARE BUTTONcCONTAINING BLACK MEDIUM SQUARE
eSMALL SQUAREeVERY SMALL SQUAREcWITH CENTRE VERTICAL LINEdLEFTWARDS TICKdLOWER LEFT QUADRANTeRIGHT QUADRANT
dRIGHTWARDS TICKdROUNDED CORNERSdUPPER LEFT QUADRANTeRIGHT QUADRANTdVERTICAL BISECTING LINEbSTARbSUNbSUN BEHIND CLOUD
dCLOUD WITH RAINcWITH RAYSdSMALL CLOUDbTELEPHONEbTOUCHTONE TELEPHONEbTRAPEZIUM
bTRIANGLE CONTAINING SMALL WHITE TRIANGLEbTWO-WAY LEFT WAY TRAFFICbUP POINTING BACKHAND INDEXdINDEX
bUP-POINTING CHEVRONdSMALL TRIANGLEdTRIANGLEdTRIANGLE WITH DOTbVERTICAL BARcELLIPSEcRECTANGLEbVERY SMALL SQUARE
aWHITE-FEATHERED RIGHTWARDS ARROWaWIDE-HEADED DOWNWARDS BARB ARROWdHEAVY BARB ARROWdLIGHT BARB ARROWdMEDIUM BARB ARROW
dVERY HEAVY BARB ARROWcLEFTWARDS BARB ARROWdHEAVY BARB ARROWdLIGHT BARB ARROWdMEDIUM BARB ARROWdVERY HEAVY BARB ARROW
cNORTH EAST BARB ARROWeHEAVY BARB ARROWeLIGHT BARB ARROWeMEDIUM BARB ARROWeVERY HEAVY BARB ARROWdWEST BARB ARROW
eHEAVY BARB ARROWeLIGHT BARB ARROWeMEDIUM BARB ARROWeVERY HEAVY BARB ARROWcRIGHTWARDS BARB ARROWdHEAVY BARB ARROW
dLIGHT BARB ARROWdMEDIUM BARB ARROWdVERY HEAVY BARB ARROWcSOUTH EAST BARB ARROWeHEAVY BARB ARROWeLIGHT BARB ARROW
eMEDIUM BARB ARROWeVERY HEAVY BARB ARROWdWEST BARB ARROWeHEAVY BARB ARROWeLIGHT BARB ARROWeMEDIUM BARB ARROW
eVERY HEAVY BARB ARROWcUPWARDS BARB ARROWdHEAVY BARB ARROWdLIGHT BARB ARROWdMEDIUM BARB ARROWdVERY HEAVY BARB ARROW
aWIGGLY VERTICAL LINEaWILTED FLOWERaWIND BLOWING FACEbCHIMEaWINDOWaWINE GLASSaWINKING FACEaWIRED KEYBOARDaWJaWOLF FACE
aWOMANaWOMAN WITH BUNNY EARSaWOMANS BOOTSbCLOTHESbHATbSANDALaWOMENS SYMBOLaWON SIGNaWOODaWORD JOINER
bSEPARATOR MIDDLE DOTaWORLD MAPaWORMaWORRIED FACEaWRAPPED PRESENTaWREATH PRODUCTaWRENCHaWRESTLERSaWRITING HAND
aX IN A RECTANGLE BOXaX-RAYaXIANGQI BLACK CANNONcCHARIOTcELEPHANTcGENERALcHORSEcMANDARINcSOLDIERbRED CANNONcCHARIOT
cELEPHANTcGENERALcHORSEcMANDARINcSOLDIERaXORaYAWNING FACEaYELLOW HEARTaYEN SIGNaYEZIDI COMBINING HAMZA MARKcMADDA MARK
bHYPHENATION MARKbLETTER BEcCHHIMcCHIMcCIMcDADcDALcELIFcETcEWcEYNcFAcGAFcHAYcHHAcJAcKAFcKHAFcLAMcLAM WITH DOT ABOVE
cMIMcNUNcOWcPEcPHEcQAFcRAcRHAcSADcSEcSHINcSINcTAcTHEcUMcVAcVA ALTERNATE FORMcWAWcXAcXHEYNcYOT
cYOT WITH CIRCUMFLEX ABOVEcZAcZALcZEaYI RADICAL BBUTcBURcCHEcCIPcCUOPcCYcCYPcCYTcDDURcDUcGAcGEPcGGOPcGGUOcGOTcHMOcHXIT
cHXOPcHXUOcJJIEcJJUTcJJYcJOcKEcKITcLIcLIEcLYRcMIcMOPcNBIEcNYIPcNYOPcNZUPcOPcPUTcPYTcQOTcSHATcSHOPcSHURcSHYcSSIcTATcTU
cVEPcVURcWOcYITcYOcZAcZOTcZUPcZURcZZIETbSYLLABLE AcAPcATcAXcBAcBAPcBATcBAXcBBAcBBAPcBBATcBBAXcBBEcBBEPcBBEXcBBIcBBIE
cBBIEPcBBIETcBBIEXcBBIPcBBITcBBIXcBBOcBBOPcBBOTcBBOXcBBUcBBUOcBBUOPcBBUOXcBBUPcBBURcBBURXcBBUTcBBUXcBBYcBBYPcBBYTcBBYX
cBEcBEPcBEXcBIcBIEcBIEPcBIETcBIEXcBIPcBITcBIXcBOcBOPcBOTcBOXcBUcBUOcBUOPcBUOXcBUPcBURcBURXcBUTcBUXcBYcBYPcBYRcBYRXcBYT
cBYXcCAcCAPcCATcCAXcCEcCEPcCEXcCHAcCHAPcCHATcCHAXcCHEcCHEPcCHETcCHEXcCHOcCHOPcCHOTcCHOXcCHUcCHUOcCHUOPcCHUOTcCHUOX
cCHUPcCHURcCHURXcCHUXcCHYcCHYPcCHYRcCHYRXcCHYTcCHYXcCIcCIEcCIEPcCIETcCIEXcCIPcCITcCIXcCOcCOPcCOTcCOXcCUcCUOcCUOPcCUOX
cCUPcCURcCURXcCUTcCUXcCYcCYPcCYRcCYRXcCYTcCYXcDAcDAPcDATcDAXcDDAcDDAPcDDATcDDAXcDDEcDDEPcDDEXcDDIcDDIEcDDIEPcDDIEX
cDDIPcDDITcDDIXcDDOcDDOPcDDOTcDDOXcDDUcDDUOcDDUOPcDDUOXcDDUPcDDURcDDURXcDDUTcDDUXcDEcDEPcDEXcDIcDIEcDIEPcDIEXcDIPcDIT
cDIXcDOcDOPcDOTcDOXcDUcDUOcDUOXcDUPcDURcDURXcDUTcDUXcEcEXcFAcFAPcFATcFAXcFIcFIPcFITcFIXcFOcFOPcFOXcFUcFUPcFURcFURXcFUT
cFUXcFYcFYPcFYTcFYXcGAcGAPcGATcGAXcGEcGEPcGETcGEXcGGAcGGAPcGGATcGGAXcGGEcGGEPcGGETcGGEXcGGIcGGIEcGGIEPcGGIEXcGGITcGGIX
cGGOcGGOPcGGOTcGGOXcGGUcGGUOcGGUOPcGGUOTcGGUOXcGGUPcGGURcGGURXcGGUTcGGUXcGIcGIEcGIEPcGIETcGIEXcGIPcGITcGIXcGOcGOPcGOT
cGOXcGUcGUOcGUOPcGUOTcGUOXcGUPcGURcGURXcGUTcGUXcHAcHAPcHATcHAXcHEcHEPcHEXcHIEcHIEXcHITcHLAcHLAPcHLATcHLAXcHLEcHLEP
cHLEXcHLIcHLIEcHLIEPcHLIEXcHLIPcHLITcHLIXcHLOcHLOPcHLOXcHLUcHLUOcHLUOPcHLUOXcHLUPcHLURcHLURXcHLUTcHLUXcHLYcHLYPcHLYR
cHLYRXcHLYTcHLYXcHMAcHMAPcHMATcHMAXcHMIcHMIEcHMIEPcHMIEXcHMIPcHMITcHMIXcHMOcHMOPcHMOTcHMOXcHMUcHMUOcHMUOPcHMUOXcHMUP
cHMURcHMURXcHMUTcHMUXcHMYcHMYPcHMYRcHMYRXcHMYXcHNAcHNAPcHNATcHNAXcHNEcHNEPcHNEXcHNIcHNIEcHNIEPcHNIETcHNIEXcHNIPcHNIT
cHNIXcHNOPcHNOTcHNOXcHNUOcHNUOXcHNUTcHOcHOPcHOTcHOXcHUOcHUOPcHUOTcHUOXcHXAcHXAPcHXATcHXAXcHXEcHXEPcHXEXcHXIcHXIEcHXIEP
cHXIETcHXIEXcHXIPcHXITcHXIXcHXOcHXOPcHXOTcHXOXcHXUOcHXUOPcHXUOTcHXUOXcIcIEcIEPcIETcIEXcIPcITcITERATION MARKcIXcJIcJIE
cJIEPcJIETcJIEXcJIPcJITcJIXcJJIcJJIEcJJIEPcJJIETcJJIEXcJJIPcJJITcJJIXcJJOcJJOPcJJOTcJJOXcJJUcJJUOcJJUOPcJJUOXcJJUP
cJJURcJJURXcJJUTcJJUXcJJYcJJYPcJJYTcJJYXcJOcJOPcJOTcJOXcJUcJUOcJUOPcJUOTcJUOXcJUPcJURcJURXcJUTcJUXcJYcJYPcJYRcJYRXcJYT
cJYXcKAcKAPcKATcKAXcKEcKEPcKETcKEXcKIcKIEcKIEPcKIEXcKIPcKITcKIXcKOcKOPcKOTcKOXcKUcKUOcKUOPcKUOXcKUPcKURcKURXcKUTcKUX
cLAcLAPcLATcLAXcLEcLEPcLEXcLIcLIEcLIEPcLIETcLIEXcLIPcLITcLIXcLOcLOPcLOTcLOXcLUcLUOcLUOPcLUOTcLUOXcLUPcLURcLURXcLUTcLUX
cLYcLYPcLYRcLYRXcLYTcLYXcMAcMAPcMATcMAXcMEcMEXcMGAcMGAPcMGATcMGAXcMGEcMGEPcMGEXcMGIEcMGIEXcMGOcMGOPcMGOTcMGOXcMGUcMGUO
cMGUOPcMGUOXcMGUPcMGURcMGURXcMGUTcMGUXcMIcMIEcMIEPcMIEXcMIPcMITcMIXcMOcMOPcMOTcMOXcMUcMUOcMUOPcMUOTcMUOXcMUPcMURcMURX
cMUTcMUXcMYcMYPcMYTcMYXcNAcNAPcNAXcNBAcNBAPcNBATcNBAXcNBIcNBIEcNBIEPcNBIEXcNBIPcNBITcNBIXcNBOcNBOPcNBOTcNBOXcNBUcNBUP
cNBURcNBURXcNBUTcNBUXcNBYcNBYPcNBYRcNBYRXcNBYTcNBYXcNDAcNDAPcNDATcNDAXcNDEcNDEPcNDEXcNDIcNDIEcNDIEXcNDIPcNDITcNDIXcNDO
cNDOPcNDOTcNDOXcNDUcNDUPcNDURcNDURXcNDUTcNDUXcNEcNEPcNEXcNGAcNGAPcNGATcNGAXcNGEcNGEPcNGEXcNGIEcNGIEPcNGIEXcNGOcNGOP
cNGOTcNGOXcNGUOcNGUOTcNGUOXcNIcNIEcNIEPcNIEXcNIPcNITcNIXcNJIcNJIEcNJIEPcNJIETcNJIEXcNJIPcNJITcNJIXcNJOcNJOPcNJOTcNJOX
cNJUcNJUOcNJUOXcNJUPcNJURcNJURXcNJUXcNJYcNJYPcNJYRcNJYRXcNJYTcNJYXcNOcNOPcNOTcNOXcNRAcNRAPcNRATcNRAXcNREcNREPcNRET
cNREXcNROcNROPcNROXcNRUcNRUPcNRURcNRURXcNRUTcNRUXcNRYcNRYPcNRYRcNRYRXcNRYTcNRYXcNUcNUOcNUOPcNUOXcNUPcNURcNURXcNUTcNUX
cNYIcNYIEcNYIEPcNYIETcNYIEXcNYIPcNYITcNYIXcNYOcNYOPcNYOTcNYOXcNYUcNYUOcNYUOPcNYUOXcNYUPcNYUTcNYUXcNZAcNZAPcNZATcNZAX
cNZEcNZEXcNZIcNZIEcNZIEPcNZIEXcNZIPcNZITcNZIXcNZOPcNZOXcNZUcNZUOcNZUOXcNZUPcNZURcNZURXcNZUXcNZYcNZYPcNZYRcNZYRXcNZYT
cNZYXcOcOPcOTcOXcPAcPAPcPATcPAXcPIcPIEcPIEPcPIEXcPIPcPITcPIXcPOcPOPcPOTcPOXcPUcPUOcPUOPcPUOXcPUPcPURcPURXcPUTcPUXcPY
cPYPcPYRcPYRXcPYTcPYXcQIcQIEcQIEPcQIETcQIEXcQIPcQITcQIXcQOcQOPcQOTcQOXcQUcQUOcQUOPcQUOTcQUOXcQUPcQURcQURXcQUTcQUXcQY
cQYPcQYRcQYRXcQYTcQYXcRAcRAPcRATcRAXcREcREPcREXcROcROPcROTcROXcRRAcRRAXcRREcRREPcRRETcRREXcRROcRROPcRROTcRROXcRRUcRRUO
cRRUOXcRRUPcRRURcRRURXcRRUTcRRUXcRRYcRRYPcRRYRcRRYRXcRRYTcRRYXcRUcRUOcRUOPcRUOXcRUPcRURcRURXcRUTcRUXcRYcRYPcRYRcRYRX
cRYTcRYXcSAcSAPcSATcSAXcSEcSEPcSEXcSHAcSHAPcSHATcSHAXcSHEcSHEPcSHETcSHEXcSHOcSHOPcSHOTcSHOXcSHUcSHUOcSHUOPcSHUOXcSHUP
cSHURcSHURXcSHUTcSHUXcSHYcSHYPcSHYRcSHYRXcSHYTcSHYXcSIcSIEcSIEPcSIEXcSIPcSITcSIXcSOcSOPcSOTcSOXcSSAcSSAPcSSATcSSAXcSSE
cSSEPcSSEXcSSIcSSIEcSSIEPcSSIEXcSSIPcSSITcSSIXcSSOcSSOPcSSOTcSSOXcSSUcSSUPcSSUTcSSUXcSSYcSSYPcSSYRcSSYRXcSSYTcSSYXcSU
cSUOcSUOPcSUOXcSUPcSURcSURXcSUTcSUXcSYcSYPcSYRcSYRXcSYTcSYXcTAcTAPcTATcTAXcTEcTEPcTEXcTIcTIEcTIEPcTIEXcTIPcTITcTIXcTO
cTOPcTOTcTOXcTUcTUOcTUOPcTUOTcTUOXcTUPcTURcTURXcTUTcTUXcUOcUOPcUOXcVAcVAPcVATcVAXcVEPcVEXcVIcVIEcVIEPcVIETcVIEXcVIP
cVITcVIXcVOcVOPcVOTcVOXcVUcVUPcVURcVURXcVUTcVUXcVYcVYPcVYRcVYRXcVYTcVYXcWAcWAPcWATcWAXcWEcWEPcWEXcWOcWOPcWOXcWUcWUO
cWUOPcWUOXcXIcXIEcXIEPcXIETcXIEXcXIPcXITcXIXcXOcXOPcXOTcXOXcXUOcXUOXcXYcXYPcXYRcXYRXcXYTcXYXcYIcYIEcYIEPcYIETcYIEXcYIP
cYITcYIXcYOcYOPcYOTcYOXcYUcYUOcYUOPcYUOTcYUOXcYUPcYURcYURXcYUTcYUXcYYcYYPcYYRcYYRXcYYTcYYXcZAcZAPcZATcZAXcZEcZEPcZEX
cZHAcZHAPcZHATcZHAXcZHEcZHEPcZHETcZHEXcZHOcZHOPcZHOTcZHOXcZHUcZHUOcZHUOPcZHUOXcZHUPcZHURcZHURXcZHUTcZHUXcZHYcZHYPcZHYR
cZHYRXcZHYTcZHYXcZIcZIEcZIEPcZIEXcZIPcZITcZIXcZOcZOPcZOTcZOXcZUcZUOcZUOPcZUOXcZUPcZURcZURXcZUTcZUXcZYcZYPcZYRcZYRXcZYT
cZYXcZZAcZZAPcZZATcZZAXcZZEcZZEPcZZEXcZZIcZZIEcZZIEPcZZIETcZZIEXcZZIPcZZITcZZIXcZZOcZZOPcZZOXcZZUcZZUPcZZURcZZURXcZZUX
cZZYcZZYPcZZYRcZZYRXcZZYTcZZYXaYIN YANGaYO-YOaZ NOTATION BAG MEMBERSHIPcDOMAIN ANTIRESTRICTIONcLEFT BINDING BRACKET
dIMAGE BRACKETcRANGE ANTIRESTRICTIONcRELATIONAL COMPOSITIONcRIGHT BINDING BRACKETdIMAGE BRACKETcSCHEMA COMPOSITION
dPIPINGdPROJECTIONcSPOTcTYPE COLONaZANABAZAR SQUARE CLOSING DOUBLE-LINED HEAD MARKdHEAD MARKcCLUSTER-FINAL LETTER LA
fRAfVAfYAdINITIAL LETTER RAcFINAL CONSONANT MARKcINITIAL DOUBLE-LINED HEAD MARKdHEAD MARKcLETTER -AdAdBAdBHAdCAdCHAdDA
dDDAdDDHAdDHAdDZAdDZHAdGAdGHAdHAdJAdKAdKHAdKSSAdLAdMAdNAdNGAdNNAdNYAdPAdPHAdRAdSAdSHAdSSAdTAdTHAdTSAdTSHAdTTAdTTHAdVA
dYAdZAdZHAcMARK DOUBLE SHADdLONG TSHEGdSHADdTSHEGcSIGN ANUSVARAdCANDRA WITH ORNAMENTdCANDRABINDU
dCANDRABINDU WITH ORNAMENTdVIRAMAdVISARGAcSUBJOINERcVOWEL LENGTH MARKdSIGN AIeAUeEeIeOeOEeREVERSED IeUeUEaZEBRA FACE
aZERO WIDTH JOINERcNO-BREAK SPACEcNON-JOINERcSPACEaZEUSaZIPPER-MOUTH FACEaZNAMENNY COMBINING ATTACHING VERTICAL OMET
cLOWER TONAL RANGE INDICATORcMARK BORZAYAdCHASHKAdCHASHKA POLNAYAdCURVED OMETdDEMESTVENNY ZADERZHKAdDVOETOCHIE
dGORAZDO NIZKO ON LEFTgRIGHTfS KRYZHEM ON LEFTiRIGHTeVYSOKOdKACHKAdKRYZHdKRYZH ON LEFTdKUPNAYAdLOMKA
dMALO POVYSHE ON LEFTgRIGHTfS KHOKHLOM ON LEFTiRIGHTgKRYZHEMfSTRANNOdNIZKO ON LEFTfRIGHTeS KRYZHEM ON LEFThRIGHT
dOBLACHKOdONdOTSECHKAdPODCHASHIEdPODCHASHIE WITH VERTICAL STROKEdPODVERTKAdPOVYSHE ON LEFTfRIGHTeS KHOKHLOM ON LEFT
hRIGHTfKRYZHEMeSTRANNOdRAVNOdRAZSEKAdSKOBAdSOROCHYA NOZHKAdSREDNE ON LEFTfRIGHTdSTRANNO MALO POVYSHEdTIKHAYAdTOCHKA
dTSATA ON LEFTfRIGHTeS KRYZHEMdUDARKAdVYSOKO ON LEFTfRIGHTeS KHOKHLOM ON LEFThRIGHTfKRYZHEMdZADERZHKAdZELOdZEVOK
cTONAL RANGE MARK MRACHNOfSVETLOfTRESVETLObNEUME CHASHKAcCHELYUSTKAcDEMESTVENNY KLYUCHcDERBITSAcDOUBLE ZAPYATAYAcDUDA
cDVA V CHELNUcFITAcGOLUBCHIK BORZYdMRACHNYdSVETLYdTIKHYdTRESVETLYcKHAMILOcKLYUCHcKOBYLAcKRYUKcKRYUK TIKHYcKRYZH
cKUFISMAcMECHIKcMECHIK KLYUCHENEPOSTOYANNYdKLYUCHEPOVODNYdKLYUCHEVOYdPOVODNYcNEMKAcOBLAKOcOSOKA
cOSOKA KLYUCHEVAYA NEPOSTOYANNAYAeSVETLAYAdKRYUKOVAYA SVETLAYAdSVETLAYAdTRESVETLAYAcPALKAcPARAKLITcPAUKcPEREVODKA
cPEREVODKA NEPOSTOYANNAYAcPODCHASHIEcPOLKULIZMYcREVERSED CHELYUSTKAcROGcSKAMEYTSA DVOECHELNAYA KLYUCHEVAYA
eNEPOSTOYANNAYAePROSTAYAeSVETLAYAdKLYUCHENEPOSTOYANNAYAdKLYUCHEVAYA SVETLAYAeTIKHAYAdMRACHNAYAdSVETLAYAdTIKHAYA
dTRESVETLAYAcSLOZHITIEcSLOZHITIE S KRYZHEMeZAPYATOYdZAKRYTOEcSTATYAcSTATYA NEPOSTOYANNAYAdS DVUMYA ZAPYATYMIeKRYZHEM
eKRYZHEM I ZAPYATOYeROGOMeZAPYATOYeZAPYATOY I KRYZHEMgPODCHASHIEMdZAKRYTAYAdZAKRYTAYA S ZAPYATOYcSTOPITSA
cSTOPITSA S OCHKOMdWITH SOROCHYA NOZHKAcSTRELA DVOECHELNAYAdDVOECHELNAYA KLYUCHEVAYAdDVOECHELNOKRYZHEVAYA
dDVOECHELNOPOVODNAYAdDVOECHELNOPOVODNAYA KLYUCHEVAYAdGROMNAYAdGROMNAYA WITH SINGLE ZAPYATAYAdGROMOKRYZHEVAYA
dGROMOKRYZHEVAYA POVODNAYAdGROMOPOVODNAYAdGROMOPOVODNAYA WITH DOUBLE ZAPYATAYAfSINGLE ZAPYATAYAdKLYUCHENEPOSTOYANNAYA
dKLYUCHEPOVODNAYAdKRYUKOVAYAdKRYUKOVAYA GROMNAYAeGROMNAYA WITH SINGLE ZAPYATAYAeGROMOKRYZHEVAYA
eGROMOKRYZHEVAYA POVODNAYAeGROMOPOVODNAYAeGROMOPOVODNAYA WITH DOUBLE ZAPYATAYAgSINGLE ZAPYATAYAePOVODNAYAeTRYASKA
dKRYZHEVAYAdMRACHNOTIKHAYAdNEPOSTOYANNAYAdPOLUPOVODNAYAdPOVODNAYAdPROSTAYAdTIKHAYA PUTNAYAdTRYASOGLASNAYA
dTRYASOPOVODNAYAdTRYASOSTRELNAYAcVRAKHIYA KLYUCHEVAYA MRACHNAYAePROSTAYAeSVETLAYAeTRESVETLAYAdMRACHNAYAdPROSTAYA
dSVETLAYAdTRESVETLAYAcZANOZHEKcZAPYATAYAcZMEYTSAbPRIZNAK MODIFIER DIRECTION FLIPdKRYZHdLEVEL-2e3dROGaZOMBIEaZWJaZWNBSP
aZWNJaZWSP"

end SearchQuery.Text
